import Mathlib
import SafeOutput.Command
import SafeOutput.Proofs.Pipeline

namespace SafeOutput

open Text Markup

variable {c : Char} {name tag : Text} {tags names : List Text}

theorem ok_of_bind {ε α β : Type} {x : Except ε α} {f : α → Except ε β} {b : β}
    (h : x >>= f = .ok b) : ∃ a, x = .ok a ∧ f a = .ok b := by
  cases x with
  | error e => cases h
  | ok a => exact ⟨a, rfl, h⟩

theorem map_eq_error_iff {ε α β : Type} {x : Except ε α} {f : α → β} {e : ε} :
    x.map f = .error e ↔ x = .error e := by
  cases x with
  | error e' =>
    constructor
    · intro h
      cases h
      rfl
    · intro h
      cases h
      rfl
  | ok a =>
    constructor
    · intro h
      cases h
    · intro h
      cases h

section Names

/-- The two ways to write a name in small letters agree where one of them gives a tag name. -/
theorem lowercase_of_lowerAscii (h : Policy.isTagName (lowerAscii name)) :
    lowercase name = lowerAscii name := by
  apply lowercase_of_ascii
  intro c hc
  apply ascii_of_toLower
  have hm : c.toLower ∈ lowerAscii name := List.mem_map_of_mem hc
  exact ascii_of_continuesName (continuesName_of_isNameChar (isNameChar_of_mem h hm))

end Names

namespace Policy

structure Harmless (name : Text) : Prop where
  spelled : isTagName name
  notRaw : name ∉ rawTextNames
  notNeverSafe : name ∉ neverSafeNames

theorem tagFault?_eq_none_iff : tagFault? name = none ↔ Harmless name := by
  have hraw : isRawText name = true ↔ name ∈ rawTextNames := List.contains_iff_mem
  have hnever : neverSafeNames.contains name = true ↔ name ∈ neverSafeNames := List.contains_iff_mem
  unfold tagFault?
  constructor
  · intro h
    split at h
    case isTrue => cases h
    case isFalse hs =>
      split at h
      case isTrue => cases h
      case isFalse hr =>
        split at h
        case isTrue => cases h
        case isFalse hn =>
          exact ⟨by simpa using hs, fun hm => hr (hraw.2 hm), fun hm => hn (hnever.2 hm)⟩
  · intro h
    rw [h.spelled, Bool.not_true, if_neg Bool.false_ne_true, if_neg (mt hraw.1 h.notRaw),
      if_neg (mt hnever.1 h.notNeverSafe)]

theorem checkTag_eq_ok_iff {other : Text} :
    checkTag name = .ok other ↔ other = name ∧ Harmless name := by
  rw [checkTag, ← tagFault?_eq_none_iff]
  cases tagFault? name with
  | none =>
    constructor
    · intro h
      exact ⟨(Except.ok.inj h).symm, rfl⟩
    · rintro ⟨rfl, -⟩
      rfl
  | some cause =>
    constructor
    · intro h
      cases h
    · rintro ⟨-, h⟩
      cases h

theorem harmless_of_mem_defaultSafe (h : name ∈ TagSet.defaultSafe) : Harmless name := by
  have hall : TagSet.defaultSafe.names.all fun name => (tagFault? name).isNone := by decide
  rw [← tagFault?_eq_none_iff, ← Option.isNone_iff_eq_none]
  exact List.all_eq_true.1 hall name h

/-- A tag of a policy as it is compared. -/
def normalName (tag : Text) : Text :=
  lowerAscii (trim tag)

theorem checkTags_eq_ok (h : checkTags tags = .ok names) :
    names = tags.map normalName ∧ ∀ name ∈ names, Harmless name := by
  induction tags generalizing names with
  | nil =>
    cases h
    exact ⟨rfl, fun _ hm => absurd hm List.not_mem_nil⟩
  | cons tag tags ih =>
    rw [checkTags, List.mapM_cons] at h
    obtain ⟨first, hc, hmore⟩ := ok_of_bind h
    obtain ⟨rest, hr, he⟩ := ok_of_bind hmore
    obtain ⟨rfl, hfirst⟩ := checkTag_eq_ok_iff.1 hc
    obtain ⟨rfl, hrest⟩ := ih hr
    cases he
    exact ⟨rfl, List.forall_mem_cons.2 ⟨hfirst, hrest⟩⟩

theorem extraTags_eq_ok {extra : TagSet} (h : extraTags tags = .ok extra) :
    (∀ name, name ∈ extra ↔ name ∈ tags.map normalName) ∧
      ∀ name ∈ tags.map normalName, Harmless name := by
  unfold extraTags at h
  cases hc : checkTags tags with
  | error fault =>
    rw [hc] at h
    cases h
  | ok names =>
    obtain ⟨rfl, hharmless⟩ := checkTags_eq_ok hc
    rw [hc] at h
    cases h
    refine ⟨?_, hharmless⟩
    intro name
    have hlower : (tags.map normalName).map lowercase = (tags.map normalName).map id := by
      apply List.map_congr_left
      intro other hm
      exact lowercase_of_isTagName (hharmless other hm).spelled
    rw [TagSet.mem_ofList, hlower, List.map_id]

theorem ofText_eq_ok_iff {raw : Text} {p : Policy} : ofText raw = .ok p ↔
    ∃ document extra, Document.parse? raw = some document ∧ document.version = supportedVersion ∧
      extraTags document.extraSafeTags = .ok extra ∧
      p = ⟨document.version, extra, document.environment.getD [], Digest.ofText raw⟩ := by
  unfold ofText
  constructor
  · intro h
    cases hd : Document.parse? raw with
    | none =>
      rw [hd] at h
      cases h
    | some document =>
      rw [hd] at h
      dsimp only at h
      obtain ⟨_, hok, hrest⟩ := ok_of_bind h
      cases hok
      split at hrest
      case isTrue => cases hrest
      case isFalse hv =>
        obtain ⟨extra, he, hp⟩ := ok_of_bind hrest
        cases hp
        exact ⟨document, extra, rfl, not_not.1 hv, he, rfl⟩
  · rintro ⟨document, extra, hd, hv, he, rfl⟩
    rw [hd]
    change (if document.version ≠ supportedVersion then _ else _) = _
    rw [if_neg (not_not.2 hv), he]
    rfl

end Policy

namespace Command

variable {s : Sanitizer} {allow : List Text} {policy : Option Policy}

theorem Outcome.ofJournal_ok {j : Journal (Except String Text)} {output : Text}
    (h : j.value = .ok output) :
    (Outcome.ofJournal j).exitCode = 0 ∧ (Outcome.ofJournal j).output = output := by
  rw [Outcome.ofJournal, h]
  exact ⟨rfl, rfl⟩

theorem Outcome.ofJournal_error {j : Journal (Except String Text)} {reason : String}
    (h : j.value = .error reason) :
    (Outcome.ofJournal j).exitCode = 1 ∧ (Outcome.ofJournal j).output = [] := by
  rw [Outcome.ofJournal, h]
  exact ⟨rfl, rfl⟩

theorem checkAllowed_eq_ok
    (h : ∀ value ∈ allow, Policy.checkTag (lowerAscii value) = .ok (lowerAscii value)) :
    checkAllowed allow = .ok () := by
  induction allow with
  | nil => rfl
  | cons value allow ih =>
    obtain ⟨hfirst, hrest⟩ := List.forall_mem_cons.1 h
    rw [checkAllowed, List.forM, hfirst]
    exact ih hrest

theorem checkAllowed_eq_error {value : Text} {fault : Policy.Fault} (hm : value ∈ allow)
    (h : Policy.checkTag (lowerAscii value) = .error fault) :
    ∃ fault, checkAllowed allow = .error fault := by
  cases hc : checkAllowed allow with
  | error fault => exact ⟨fault, rfl⟩
  | ok done =>
    exfalso
    induction allow with
    | nil => cases hm
    | cons first allow ih =>
      rw [checkAllowed, List.forM] at hc
      obtain ⟨_, hfirst, hrest⟩ := ok_of_bind hc
      rcases List.mem_cons.1 hm with rfl | hmore
      · rw [h] at hfirst
        cases hfirst
      · exact ih hmore hrest

section Files

structure PolicyFile where
  path : Text
  path_ne : path ≠ []
  text : String

variable {file : Option PolicyFile}

def cleaningArguments (file : Option PolicyFile) (allow : List Text) : List Text :=
  (file.map fun f => "--config=".toList ++ f.path).toList ++
    "clean-html".toList :: allow.map ("--allow=".toList ++ ·)

def fileSource (file : Option PolicyFile) : Option (Except Policy.ReadFault ByteArray) :=
  file.map fun f => .ok f.text.toUTF8

def configuredTags (file : Option PolicyFile) : List Text :=
  ((file.bind fun f => Policy.Document.parse? f.text.toList).map (·.extraSafeTags)).getD []

/-- The names that a cleaned text may have: those kept by default, those of the policy file in
whatever case and padding, and those allowed on the command line in whatever case. -/
def Permitted (file : Option PolicyFile) (allow : List Text) (name : Text) : Prop :=
  name ∈ TagSet.defaultSafe ∨ name ∈ (configuredTags file).map Policy.normalName ∨
    name ∈ allow.map lowerAscii

/-- The policy in the file, if there is one. -/
def Loads (file : Option PolicyFile) (policy : Option Policy) : Prop :=
  file.mapM (fun f => Policy.ofText f.text.toList) = .ok policy

theorem Loads.cases (h : Loads file policy) :
    (file = none ∧ policy = none) ∨
      ∃ f p, file = some f ∧ policy = some p ∧ Policy.ofText f.text.toList = .ok p := by
  cases file with
  | none =>
    cases h
    exact .inl ⟨rfl, rfl⟩
  | some f =>
    have hload : (Policy.ofText f.text.toList).map some = .ok policy := h
    cases hp : Policy.ofText f.text.toList with
    | error fault =>
      rw [hp] at hload
      cases hload
    | ok p =>
      rw [hp] at hload
      cases hload
      exact .inr ⟨f, p, rfl, rfl, hp⟩

theorem fromUTF8?_toUTF8 (t : String) : String.fromUTF8? t.toUTF8 = some t :=
  dif_pos t.isValidUTF8

def sanitizerOf (policy : Option Policy) : Sanitizer :=
  policy.elim .standard .ofPolicy

theorem Loads.sanitizer (h : Loads file policy) :
    (Command.sanitizer (fileSource file)).value = .ok (sanitizerOf policy) := by
  rcases h.cases with ⟨rfl, rfl⟩ | ⟨f, p, rfl, rfl, hp⟩
  · rfl
  · have hload : (Policy.loadFrom (.ok f.text.toUTF8)).value = .ok p := by
      rw [Policy.loadFrom, Policy.decode, fromUTF8?_toUTF8]
      dsimp only
      rw [Policy.load, hp]
    rw [fileSource, Option.map_some, Command.sanitizer, Journal.value_bind, hload]
    rfl

theorem Loads.mem_safeTags (h : Loads file policy) :
    name ∈ (sanitizerOf policy).safeTags ↔
      name ∈ TagSet.defaultSafe ∨ name ∈ (configuredTags file).map Policy.normalName := by
  rcases h.cases with ⟨rfl, rfl⟩ | ⟨f, p, rfl, rfl, hp⟩
  · exact (or_iff_left List.not_mem_nil).symm
  · obtain ⟨document, extra, hparse, -, hextra, rfl⟩ := Policy.ofText_eq_ok_iff.1 hp
    have hconfigured : configuredTags (some f) = document.extraSafeTags := by
      rw [configuredTags, Option.bind_some, hparse]
      rfl
    rw [hconfigured, ← (Policy.extraTags_eq_ok hextra).1]
    exact TagSet.mem_union

theorem Loads.harmless (h : Loads file policy)
    (hm : name ∈ (configuredTags file).map Policy.normalName) : Policy.Harmless name := by
  rcases h.cases with ⟨rfl, rfl⟩ | ⟨f, p, rfl, rfl, hp⟩
  · cases hm
  · obtain ⟨document, extra, hparse, -, hextra, rfl⟩ := Policy.ofText_eq_ok_iff.1 hp
    rw [configuredTags, Option.bind_some, hparse] at hm
    exact (Policy.extraTags_eq_ok hextra).2 name hm

section Allowed

variable (h : Loads file policy) (ha : ∀ value ∈ allow, Policy.Harmless (lowerAscii value))

include h ha

theorem mem_allowed_iff :
    name ∈ (sanitizerOf policy).safeTags.union (.ofList allow) ↔ Permitted file allow name := by
  have hlower : allow.map lowercase = allow.map lowerAscii := by
    apply List.map_congr_left
    intro value hm
    exact lowercase_of_lowerAscii (ha value hm).spelled
  rw [TagSet.mem_union, h.mem_safeTags, TagSet.mem_ofList, hlower, or_assoc]
  rfl

theorem Permitted.harmless (hp : Permitted file allow name) : Policy.Harmless name := by
  rcases hp with hd | hc | hv
  · exact Policy.harmless_of_mem_defaultSafe hd
  · exact h.harmless hc
  · obtain ⟨value, hm, rfl⟩ := List.mem_map.1 hv
    exact ha value hm

end Allowed

theorem attached?_append (option : String) (value : Text) :
    attached? option (option.toList ++ '=' :: value) = some value := by
  have hform : option.toList ++ '=' :: value = (option.toList ++ ['=']) ++ value :=
    (List.append_cons _ _ _)
  have hstart : (option.toList ++ ['=']).isPrefixOf ((option.toList ++ ['=']) ++ value) = true :=
    List.isPrefixOf_iff_prefix.2 (List.prefix_append _ _)
  rw [hform, attached?, if_pos hstart, List.drop_left]

theorem append_ne_option (option : String) (value : Text) :
    option.toList ++ '=' :: value ≠ option.toList := by
  intro he
  have hlength := congrArg List.length he
  rw [List.length_append, List.length_cons] at hlength
  omega

theorem allowedTags_eq (allow : List Text) :
    allowedTags (allow.map ("--allow=".toList ++ ·)) = .ok allow := by
  induction allow with
  | nil => rfl
  | cons value allow ih =>
    have hvalue : attached? "--allow" ("--allow=".toList ++ value) = some value :=
      attached?_append "--allow" value
    have hne : "--allow=".toList ++ value ≠ "--allow".toList := append_ne_option "--allow" value
    rw [List.map_cons, allowedTags.eq_def]
    dsimp only
    rw [if_neg hne, hvalue, ih]
    rfl

theorem parseFrom_cleaning (path : Option Text) (allow : List Text) :
    parseFrom path none ("clean-html".toList :: allow.map ("--allow=".toList ++ ·)) =
      .ok (path, .cleanHtml allow) := by
  have haction : action ("clean-html".toList :: allow.map ("--allow=".toList ++ ·)) =
      .ok (.cleanHtml allow) := by
    rw [action.eq_def]
    dsimp only
    rw [if_neg (by decide), if_pos rfl, allowedTags_eq]
    rfl
  have hattached : attached? "--config" "clean-html".toList = none := by decide
  rw [parseFrom.eq_def]
  dsimp only
  rw [if_neg (by decide), if_neg (by decide), hattached, haction]
  rfl

theorem parse_cleaningArguments (file : Option PolicyFile) (allow : List Text) :
    parse (cleaningArguments file allow) none =
      .ok ⟨file.map PolicyFile.path, .cleanHtml allow⟩ := by
  cases file with
  | none =>
    have hparse := parseFrom_cleaning none allow
    rw [parse, cleaningArguments, Option.map_none, Option.toList_none, List.nil_append, hparse]
    rfl
  | some f =>
    have hpath : attached? "--config" ("--config=".toList ++ f.path) = some f.path :=
      attached?_append "--config" f.path
    have hhelp : isHelp ("--config=".toList ++ f.path) = false := rfl
    have hne : "--config=".toList ++ f.path ≠ "--config".toList :=
      append_ne_option "--config" f.path
    have hsettle : settle none (some f.path) = .ok (some f.path) := by
      rw [settle, List.isEmpty_eq_false_iff.2 f.path_ne]
      rfl
    have hfrom : parseFrom none none (cleaningArguments (some f) allow) =
        .ok (some f.path, .cleanHtml allow) := by
      rw [cleaningArguments, Option.map_some, Option.toList_some, List.singleton_append,
        parseFrom.eq_def]
      dsimp only
      rw [hhelp, if_neg Bool.false_ne_true, if_neg hne, hpath]
      change (settle none (some f.path) >>= fun path => parseFrom path none _) = _
      rw [hsettle]
      exact parseFrom_cleaning (some f.path) allow
    rw [parse, hfrom]
    have hpolicy : some f.path ≠ some [] := fun he => f.path_ne (Option.some.inj he)
    exact if_neg hpolicy

theorem Loads.run (h : Loads file policy) (request : Request) (input : String) :
    ∃ j, Command.run request (fileSource file) input.toUTF8 = .ofJournal j ∧
      j.value = (perform (sanitizerOf policy) request.action input.toList).value := by
  refine ⟨_, rfl, ?_⟩
  rw [Journal.value_bind, h.sanitizer]
  dsimp only
  rw [performOn, fromUTF8?_toUTF8]

/-- What cleaning leaves: the text that the sanitizer gives, with bare tags of permitted names only,
however it is scanned, and none of these names is one that is never safe. -/
structure Cleaned (file : Option PolicyFile) (policy : Option Policy) (allow : List Text)
    (input output : Text) : Prop where
  result : ∃ c, ((sanitizerOf policy).cleanHtml (.ofList allow) (.str input)).value = .ok c ∧
    c.text = output
  names : ∀ name, name ∈ (sanitizerOf policy).safeTags.union (.ofList allow) ↔
    Permitted file allow name
  markup : SafeMarkup (Permitted file allow) output
  tags : ∀ (g : Grammar) (it : Tag), .tag it ∈ g.tokens output →
    ∃ name, it.name = some name ∧ Permitted file allow name
  harmless : ∀ name, Permitted file allow name → Policy.Harmless name

theorem Loads.cleaned (h : Loads file policy)
    (ha : ∀ value ∈ allow, Policy.Harmless (lowerAscii value)) (input : Text) :
    Cleaned file policy allow input
      (writePieces (onePass ((sanitizerOf policy).safeTags.union (.ofList allow)) input)) where
  result := by
    have hb : "b".toList ∈ (sanitizerOf policy).safeTags.union (.ofList allow) :=
      (mem_allowed_iff h ha).2 (.inl Sanitizer.b_mem_defaultSafe)
    exact ⟨_, Sanitizer.cleanHtml_str (TagSet.isEmpty_of_mem hb) input, rfl⟩
  names _ := mem_allowed_iff h ha
  markup := ((onePass_bareMarkup _ input).mono fun _ => (mem_allowed_iff h ha).1).safe
  tags g it hm := by
    have hsafe := onePass_safe ((sanitizerOf policy).safeTags.union (.ofList allow)) input
    rw [tokens_writePieces g hsafe] at hm
    obtain ⟨tag, htag, rfl⟩ := mem_scanned hm
    exact ⟨tag.name, rfl, (mem_allowed_iff h ha).1 (hsafe _ htag).named⟩
  harmless _ := Permitted.harmless h ha

/-- Whatever a policy and the command line allow, no element that is never safe survives: either a
name is refused and nothing is written, or only harmless names are left. -/
theorem run_cleaning (file : Option PolicyFile) (policy : Option Policy) (h : Loads file policy)
    (allow : List Text) (input : String) :
    ∃ request, parse (cleaningArguments file allow) none = .ok request ∧
      let outcome := Command.run request (fileSource file) input.toUTF8
      ((∃ value ∈ allow, ∃ fault, Policy.checkTag (lowerAscii value) = .error fault) →
        outcome.exitCode = 1 ∧ outcome.output = []) ∧
      ((∀ value ∈ allow, Policy.checkTag (lowerAscii value) = .ok (lowerAscii value)) →
        outcome.exitCode = 0 ∧ Cleaned file policy allow input.toList outcome.output) := by
  refine ⟨_, parse_cleaningArguments file allow, ?_⟩
  intro outcome
  obtain ⟨j, hrun, hvalue⟩ := h.run ⟨file.map PolicyFile.path, .cleanHtml allow⟩ input
  have houtcome : outcome = .ofJournal j := hrun
  rw [perform] at hvalue
  rw [houtcome]
  constructor
  · rintro ⟨value, hm, fault, hfault⟩
    obtain ⟨first, hfirst⟩ := checkAllowed_eq_error hm hfault
    rw [hfirst] at hvalue
    exact Outcome.ofJournal_error hvalue
  · intro hok
    have ha : ∀ value ∈ allow, Policy.Harmless (lowerAscii value) := by
      intro value hm
      exact (Policy.checkTag_eq_ok_iff.1 (hok value hm)).2
    have hcleaned := h.cleaned ha input.toList
    obtain ⟨c, hc, htext⟩ := hcleaned.result
    have houtput : j.value = .ok c.text := by
      rw [hvalue, checkAllowed_eq_ok hok]
      dsimp only
      rw [Journal.value_bind, Journal.value_map, hc]
      rfl
    obtain ⟨hcode, hwritten⟩ := Outcome.ofJournal_ok houtput
    refine ⟨hcode, ?_⟩
    rw [hwritten, htext]
    exact hcleaned

/-- Padding, case and repetition in a policy do not matter. -/
theorem run_cleaning_list :
    let f : PolicyFile :=
      ⟨"p".toList, by decide, "sanitize: v1\nclean_html:\n  extra_safe_tags: [' UL ', Li, li]\n"⟩
    let input := "<P><ul><Script>x"
    ∃ policy, Loads (some f) policy ∧
      (∀ value ∈ ["P".toList],
        Policy.checkTag (lowerAscii value) = .ok (lowerAscii value)) ∧
      ∃ request, parse (cleaningArguments (some f) ["P".toList]) none = .ok request ∧
        (Command.run request (fileSource (some f)) input.toUTF8).exitCode = 0 ∧
        Cleaned (some f) policy ["P".toList] input.toList
          (Command.run request (fileSource (some f)) input.toUTF8).output := by
  intro f input
  have hparse : Policy.Document.parse? f.text.toList =
      some ⟨"v1".toList, [" UL ".toList, "Li".toList, "li".toList], none⟩ := by
    decide +kernel
  have hload : Loads (some f) (some _) :=
    congrArg (Except.map some) (Policy.ofText_eq_ok_iff.2 ⟨_, _, hparse, rfl, rfl, rfl⟩)
  have hallow : ∀ value ∈ ["P".toList],
      Policy.checkTag (lowerAscii value) = .ok (lowerAscii value) := by
    intro value hm
    rw [List.mem_singleton.1 hm]
    rfl
  obtain ⟨request, hrequest, -, hclean⟩ := run_cleaning (some f) _ hload ["P".toList] input
  exact ⟨_, hload, hallow, request, hrequest, hclean hallow⟩

end Files

end Command

end SafeOutput
