import Mathlib
import SafeOutput.Proofs.NeverSafe
import SafeOutput.Proofs.Pattern

namespace SafeOutput

open Text Markup

variable {c : Char} {name tag other left right : Text} {tags others : List Text}

theorem Markup.TagSet.eq_of_mem_iff {s t : TagSet} (h : ∀ name, name ∈ s ↔ name ∈ t) : s = t := by
  obtain ⟨names, hs⟩ := s
  obtain ⟨others, ht⟩ := t
  congr
  exact hs.eq_of_mem_iff ht h

namespace Policy

section Rules

open Pattern

/-- `[a-z][a-z0-9:-]*` -/
def nameForm : Pattern :=
  seq (one Char.isLower) (many true (one isNameChar))

theorem matches_nameForm : nameForm.Matches name ↔ isTagName name := by
  rw [nameForm, matches_one_seq]
  cases name with
  | nil => simp [isTagName]
  | cons c cs => simp [isTagName_cons, matches_greedy_one]

/-- The first rule that a name breaks, by the reason that is given. -/
inductive Breaks (name : Text) : String → Prop
  | malformed (h : ¬nameForm.Matches name) : Breaks name "not a valid element name"
  | rawText (h : nameForm.Matches name) (hr : name ∈ rawTextNames) :
      Breaks name "raw text elements cannot be whitelisted"
  | neverSafe (h : nameForm.Matches name) (hr : name ∉ rawTextNames) (hn : name ∈ neverSafeNames) :
      Breaks name "element is never safe"

theorem TagFault.reason_injective : Function.Injective TagFault.reason := by
  intro cause cause' h
  cases cause <;> cases cause' <;> simp_all [TagFault.reason]

theorem tagFault?_eq_some_iff {cause : TagFault} :
    tagFault? name = some cause ↔ Breaks name cause.reason := by
  have hraw : isRawText name = true ↔ name ∈ rawTextNames := List.contains_iff_mem
  have hnever : neverSafeNames.contains name = true ↔ name ∈ neverSafeNames := List.contains_iff_mem
  constructor
  · intro h
    unfold tagFault? at h
    split at h
    case isTrue hs =>
      cases h
      exact .malformed fun hm => by simp [matches_nameForm.1 hm] at hs
    case isFalse hs =>
      have hm : nameForm.Matches name := matches_nameForm.2 (by simpa using hs)
      split at h
      case isTrue hr =>
        cases h
        exact .rawText hm (hraw.1 hr)
      case isFalse hr =>
        split at h
        case isTrue hn =>
          cases h
          exact .neverSafe hm (mt hraw.2 hr) (hnever.1 hn)
        case isFalse => cases h
  · intro h
    generalize he : cause.reason = reason at h
    cases h with
    | malformed hm =>
      obtain rfl : cause = .malformed := TagFault.reason_injective he
      rw [matches_nameForm, Bool.not_eq_true] at hm
      rw [tagFault?, hm]
      rfl
    | rawText hm hr =>
      obtain rfl : cause = .rawText := TagFault.reason_injective he
      rw [tagFault?, matches_nameForm.1 hm, hraw.2 hr]
      rfl
    | neverSafe hm hr hn =>
      obtain rfl : cause = .neverSafe := TagFault.reason_injective he
      rw [tagFault?, matches_nameForm.1 hm, Bool.not_true, if_neg Bool.false_ne_true,
        if_neg (mt hraw.1 hr), if_pos (hnever.2 hn)]

theorem harmless_iff : Harmless name ↔
    nameForm.Matches name ∧ name ∉ rawTextNames ∧ name ∉ neverSafeNames := by
  rw [matches_nameForm]
  exact ⟨fun h => ⟨h.spelled, h.notRaw, h.notNeverSafe⟩, fun ⟨hs, hr, hn⟩ => ⟨hs, hr, hn⟩⟩

theorem not_breaks_iff : (∀ reason, ¬Breaks name reason) ↔ Harmless name := by
  constructor
  · intro h
    rw [← tagFault?_eq_none_iff]
    cases hf : tagFault? name with
    | none => rfl
    | some cause => exact absurd (tagFault?_eq_some_iff.1 hf) (h _)
  · intro h reason hb
    obtain ⟨hm, hr, hn⟩ := harmless_iff.1 h
    cases hb with
    | malformed hnot => exact hnot hm
    | rawText _ hraw => exact hr hraw
    | neverSafe _ _ hnever => exact hn hnever

end Rules

theorem checkTags_cons (tag : Text) (tags : List Text) :
    checkTags (tag :: tags) = (checkTag (normalName tag)).bind fun first =>
      (checkTags tags).map (first :: ·) := by
  rw [checkTags, List.mapM_cons]
  rfl

theorem checkTag_of_tagFault? {cause : TagFault} (h : tagFault? name = some cause) :
    checkTag name = .error (.unsafeTag name cause) := by
  rw [checkTag, h]

theorem checkTags_of_harmless (h : ∀ tag ∈ tags, Harmless (normalName tag)) :
    checkTags tags = .ok (tags.map normalName) := by
  induction tags with
  | nil => rfl
  | cons tag tags ih =>
    obtain ⟨htag, htags⟩ := List.forall_mem_cons.1 h
    rw [checkTags_cons, checkTag_eq_ok_iff.2 ⟨rfl, htag⟩, ih htags]
    rfl

theorem extraTags_eq_ok_iff {extra : TagSet} : extraTags tags = .ok extra ↔
    (∀ tag ∈ tags, Harmless (normalName tag)) ∧
      ∀ name, name ∈ extra ↔ name ∈ tags.map normalName := by
  constructor
  · intro h
    obtain ⟨hmem, hharmless⟩ := extraTags_eq_ok h
    exact ⟨fun tag hm => hharmless _ (List.mem_map_of_mem hm), hmem⟩
  · rintro ⟨hharmless, hmem⟩
    have hok : extraTags tags = .ok (.ofList (tags.map normalName)) := by
      rw [extraTags, checkTags_of_harmless hharmless]
      rfl
    obtain ⟨hloaded, -⟩ := extraTags_eq_ok hok
    have heq : TagSet.ofList (tags.map normalName) = extra := by
      apply TagSet.eq_of_mem_iff
      intro name
      rw [hloaded, hmem]
    rw [hok, heq]

theorem checkTags_cons_eq_error_iff {fault : Fault} (h : Harmless (normalName tag)) :
    checkTags (tag :: tags) = .error fault ↔ checkTags tags = .error fault := by
  rw [checkTags_cons, checkTag_eq_ok_iff.2 ⟨rfl, h⟩]
  exact map_eq_error_iff

theorem extraTags_eq_error_iff {fault : Fault} : extraTags tags = .error fault ↔
    ∃ before tag after cause, tags = before ++ tag :: after ∧
      (∀ other ∈ before, Harmless (normalName other)) ∧
      tagFault? (normalName tag) = some cause ∧ fault = .unsafeTag (normalName tag) cause := by
  rw [extraTags, map_eq_error_iff]
  constructor
  · intro h
    induction tags with
    | nil => cases h
    | cons tag tags ih =>
      cases hf : tagFault? (normalName tag) with
      | some cause =>
        rw [checkTags_cons, checkTag_of_tagFault? hf] at h
        cases h
        exact ⟨[], tag, tags, cause, rfl, fun _ hm => absurd hm List.not_mem_nil, hf, rfl⟩
      | none =>
        have htag := tagFault?_eq_none_iff.1 hf
        obtain ⟨before, first, after, cause, rfl, hbefore, hfirst⟩ :=
          ih ((checkTags_cons_eq_error_iff htag).1 h)
        exact ⟨tag :: before, first, after, cause, rfl,
          List.forall_mem_cons.2 ⟨htag, hbefore⟩, hfirst⟩
  · rintro ⟨before, tag, after, cause, rfl, hbefore, hf, rfl⟩
    induction before with
    | nil =>
      rw [List.nil_append, checkTags_cons, checkTag_of_tagFault? hf]
      rfl
    | cons other before ih =>
      obtain ⟨hother, hmore⟩ := List.forall_mem_cons.1 hbefore
      exact (checkTags_cons_eq_error_iff hother).2 (ih hmore)

theorem extraTags_eq_ok_iff_of_loads {extra : TagSet} (h : extraTags tags = .ok extra) :
    extraTags others = .ok extra ↔
      ∀ name, name ∈ tags.map normalName ↔ name ∈ others.map normalName := by
  obtain ⟨hharmless, hmem⟩ := extraTags_eq_ok_iff.1 h
  rw [extraTags_eq_ok_iff]
  constructor
  · rintro ⟨-, hothers⟩ name
    rw [← hmem, hothers]
  · intro hsame
    refine ⟨?_, ?_⟩
    · intro other hm
      obtain ⟨tag, ht, he⟩ := List.mem_map.1 ((hsame _).2 (List.mem_map_of_mem hm))
      rw [← he]
      exact hharmless tag ht
    · intro name
      rw [hmem, hsame]

section Spelling

inductive Respelled : List Text → List Text → Prop
  | permuted {tags others : List Text} (h : tags.Perm others) : Respelled tags others
  | repeated {tag : Text} {tags : List Text} (h : tag ∈ tags) : Respelled tags (tag :: tags)
  | padded {left right tag : Text} {tags : List Text} (hl : ∀ c ∈ left, isBlank c)
      (hr : ∀ c ∈ right, isBlank c) : Respelled (tag :: tags) ((left ++ tag ++ right) :: tags)
  | recased {tag other : Text} {tags : List Text} (h : lowerAscii tag = lowerAscii other) :
      Respelled (tag :: tags) (other :: tags)

/-- One list comes from the other by writing it in other ways, there and back. -/
abbrev Respelling : List Text → List Text → Prop :=
  Relation.EqvGen Respelled

theorem normalName_eq_of_lowerAscii (h : lowerAscii tag = lowerAscii other) :
    normalName tag = normalName other := by
  rw [normalName, ← trim_lowerAscii, h, trim_lowerAscii]
  rfl

theorem normalName_padded (hl : ∀ c ∈ left, isBlank c) (hr : ∀ c ∈ right, isBlank c) :
    normalName (left ++ tag ++ right) = normalName tag := by
  rw [normalName, trim_append_right hr, trim_append_left hl]
  rfl

theorem Respelled.mem_iff (h : Respelled tags others) :
    name ∈ tags.map normalName ↔ name ∈ others.map normalName := by
  cases h with
  | permuted hp => exact (hp.map normalName).mem_iff
  | repeated hm =>
    rw [List.map_cons, List.mem_cons]
    refine ⟨.inr, ?_⟩
    rintro (rfl | hname)
    · exact List.mem_map_of_mem hm
    · exact hname
  | padded hl hr => rw [List.map_cons, List.map_cons, normalName_padded hl hr]
  | recased hc => rw [List.map_cons, List.map_cons, normalName_eq_of_lowerAscii hc]

theorem Respelling.mem_iff (h : Respelling tags others) :
    name ∈ tags.map normalName ↔ name ∈ others.map normalName := by
  induction h with
  | rel _ _ hstep => exact hstep.mem_iff
  | refl => exact Iff.rfl
  | symm _ _ _ ih => exact ih.symm
  | trans _ _ _ _ _ ih ih' => exact ih.trans ih'

theorem Respelling.perm (h : tags.Perm others) : Respelling tags others :=
  .rel _ _ (.permuted h)

theorem respelling_normalName (tag : Text) (tags : List Text) :
    Respelling (tag :: tags) (normalName tag :: tags) := by
  obtain ⟨left, right, hl, hr, htag⟩ := exists_padding tag
  have hpad : Respelling (trim tag :: tags) (tag :: tags) := by
    have hstep : Respelled (trim tag :: tags) ((left ++ trim tag ++ right) :: tags) := .padded hl hr
    rw [← htag] at hstep
    exact .rel _ _ hstep
  have hcase : Respelling (trim tag :: tags) (normalName tag :: tags) := by
    apply Relation.EqvGen.rel
    apply Respelled.recased
    rw [normalName, lowerAscii, lowerAscii, List.map_map]
    exact List.map_congr_left fun c _ => (Char.toLower_toLower_eq_toLower c).symm
  exact .trans _ _ _ (.symm _ _ hpad) hcase

/-- Each tag in turn, while those before it go behind the list. -/
theorem respelling_map_normalName (tags done : List Text) :
    Respelling (tags ++ done) (tags.map normalName ++ done) := by
  induction tags generalizing done with
  | nil => exact .refl _
  | cons tag tags ih =>
    have hhead := respelling_normalName tag (tags ++ done)
    have hback : Respelling (normalName tag :: (tags ++ done)) (tags ++ normalName tag :: done) :=
      .perm List.perm_middle.symm
    have hfront : Respelling (tags.map normalName ++ normalName tag :: done)
        (normalName tag :: (tags.map normalName ++ done)) :=
      .perm List.perm_middle
    exact .trans _ _ _ hhead (.trans _ _ _ hback (.trans _ _ _ (ih _) hfront))

theorem respelling_append (h : others ⊆ tags) : Respelling tags (others ++ tags) := by
  induction others with
  | nil => exact .refl _
  | cons other others ih =>
    obtain ⟨hm, hsub⟩ := List.cons_subset.1 h
    exact .trans _ _ _ (ih hsub) (.rel _ _ (.repeated (List.mem_append_right others hm)))

theorem respelling_iff : Respelling tags others ↔
    ∀ name, name ∈ tags.map normalName ↔ name ∈ others.map normalName := by
  refine ⟨fun h name => h.mem_iff, ?_⟩
  intro h
  have hnormal (tags : List Text) : Respelling tags (tags.map normalName) := by
    have hmap := respelling_map_normalName tags []
    rwa [List.append_nil, List.append_nil] at hmap
  have hleft := respelling_append fun name hm => (h name).2 hm
  have hright := respelling_append fun name hm => (h name).1 hm
  have hswap : Respelling (others.map normalName ++ tags.map normalName)
      (tags.map normalName ++ others.map normalName) :=
    .perm List.perm_append_comm
  have hjoined : Respelling (tags.map normalName) (others.map normalName) :=
    .trans _ _ _ hleft (.trans _ _ _ hswap (.symm _ _ hright))
  exact .trans _ _ _ (hnormal tags) (.trans _ _ _ hjoined (.symm _ _ (hnormal others)))

end Spelling

theorem ofText_extraSafeTags {raw : Text} {document : Document}
    (hd : Document.parse? raw = some document) (hv : document.version = supportedVersion) :
    (ofText raw).map Policy.extraSafeTags = extraTags document.extraSafeTags := by
  unfold ofText
  rw [hd]
  change Except.map _ (if document.version ≠ supportedVersion then _ else _) = _
  rw [if_neg (not_not.2 hv)]
  cases extraTags document.extraSafeTags with
  | error => rfl
  | ok => rfl

/-- A list of tags loads if all its names may be kept, and adds these names however it is written.
Else the first name that may not be kept is refused, by the first rule that it breaks. -/
theorem extraTags_exact (tags : List Text) :
    ((∃ extra, extraTags tags = .ok extra) ↔ ∀ tag ∈ tags, nameForm.Matches (normalName tag) ∧
        normalName tag ∉ rawTextNames ∧ normalName tag ∉ neverSafeNames) ∧
      (∀ extra, extraTags tags = .ok extra →
        (∀ name, name ∈ extra ↔ name ∈ tags.map normalName) ∧
          (∀ others, extraTags others = .ok extra ↔ Respelling tags others) ∧
          ∀ p : Policy, p.extraSafeTags = extra → ∀ name, name ∈ (Sanitizer.ofPolicy p).safeTags ↔
            name ∈ TagSet.defaultSafe ∨ name ∈ tags.map normalName) ∧
      (∀ fault, extraTags tags = .error fault ↔
        ∃ before tag after cause, tags = before ++ tag :: after ∧
          (∀ other ∈ before, ∀ reason, ¬Breaks (normalName other) reason) ∧
          Breaks (normalName tag) cause.reason ∧ fault = .unsafeTag (normalName tag) cause) ∧
      ∀ raw document, Document.parse? raw = some document → document.version = supportedVersion →
        document.extraSafeTags = tags → (ofText raw).map Policy.extraSafeTags = extraTags tags := by
  refine ⟨?_, ?_, ?_, ?_⟩
  · simp only [← harmless_iff]
    constructor
    · rintro ⟨extra, h⟩
      exact (extraTags_eq_ok_iff.1 h).1
    · intro h
      exact ⟨_, congrArg (Except.map TagSet.ofList) (checkTags_of_harmless h)⟩
  · intro extra h
    obtain ⟨hharmless, hmem⟩ := extraTags_eq_ok_iff.1 h
    refine ⟨hmem, ?_, ?_⟩
    · intro others
      rw [respelling_iff]
      exact extraTags_eq_ok_iff_of_loads h
    · rintro p rfl name
      rw [← hmem]
      exact TagSet.mem_union
  · intro fault
    simp only [not_breaks_iff, ← tagFault?_eq_some_iff]
    exact extraTags_eq_error_iff
  · rintro raw document hd hv rfl
    exact ofText_extraSafeTags hd hv

end Policy

end SafeOutput
