import Mathlib
import SafeOutput.Proofs.Pipeline

namespace SafeOutput

open Markup

namespace Draft

inductive Step where
  | kind (kind : Kind)
  | dir (dir : Direction)
  deriving DecidableEq, Repr

def Step.kind? : Step → Option Kind
  | .kind k => some k
  | .dir _ => none

def Step.dir? : Step → Option Direction
  | .kind _ => none
  | .dir x => some x

def step (d : Draft) : Step → Draft
  | .kind kind => d.withKind kind
  | .dir dir => d.withDir dir

def run (d : Draft) (steps : List Step) : Draft :=
  steps.foldl step d

/-- What the last of the steps that settle something settles. -/
def last {α : Type} (settled : Step → Option α) (steps : List Step) : Option α :=
  (steps.filterMap settled).getLast?

end Draft

/-- The ways to trusted content: directly, by way of a draft, and as the result of a directive. -/
inductive Obtained : Content → Prop
  | wrapped {text : Text} {kind : Kind} {dir : Option Direction} {approval : Option Approval}
      {c : Content} (h : (Content.wrap text kind dir approval).value = .ok c) : Obtained c
  | approved {text : Text} {steps : List Draft.Step} {a : Approval} {c : Content}
      (h : (((Draft.ofText text).run steps).approve a).value = .ok c) : Obtained c
  | directed {s : Sanitizer} {d : Directive} {v : Value} {c : Content}
      (h : (d.apply s v).value = .ok (.content c)) : Obtained c

def codeKinds : List Kind :=
  [.css, .attributes, .js, .uri, .trustedResourceUri]

variable {text : Text} {kind : Kind} {dir : Option Direction} {approval : Option Approval}
  {a : Approval} {c : Content} {steps : List Draft.Step}

namespace Draft

theorem last_cons {α : Type} (settled : Step → Option α) (s : Step) (steps : List Step) :
    last settled (s :: steps) = (last settled steps).or (settled s) := by
  rw [last, last, List.filterMap_cons]
  cases settled s with
  | none => rw [Option.or_none]
  | some a =>
    rw [List.getLast?_cons]
    cases (steps.filterMap settled).getLast? with
    | none => rfl
    | some b => rfl

theorem last_eq_none_iff {α : Type} {settled : Step → Option α} :
    last settled steps = none ↔ ∀ s ∈ steps, settled s = none := by
  rw [last, List.getLast?_eq_none_iff, List.filterMap_eq_nil_iff]

theorem step_eq (d : Draft) (s : Step) :
    d.step s = ⟨d.text, s.kind?.or d.kind, s.dir?.or d.dir⟩ := by
  cases s with
  | kind => rfl
  | dir => rfl

theorem run_eq (d : Draft) (steps : List Step) :
    d.run steps = ⟨d.text, (last Step.kind? steps).or d.kind, (last Step.dir? steps).or d.dir⟩ := by
  induction steps generalizing d with
  | nil => rfl
  | cons s steps ih =>
    rw [run, List.foldl_cons, step_eq]
    have hrest := ih ⟨d.text, s.kind?.or d.kind, s.dir?.or d.dir⟩
    rw [run] at hrest
    rw [hrest, last_cons, last_cons, Option.or_assoc, Option.or_assoc]

theorem approve_run_of_none (h : last Step.kind? steps = none) (text : Text) (a : Approval) :
    ((Draft.ofText text).run steps).approve a = ⟨.error .missingKind, [.kindMissing]⟩ := by
  rw [run_eq, h]
  rfl

theorem approve_run_of_some (h : last Step.kind? steps = some kind) (text : Text) (a : Approval) :
    ((Draft.ofText text).run steps).approve a =
      Content.wrap text kind (last Step.dir? steps) (some a) := by
  rw [run_eq, h]
  change Content.wrap text kind ((last Step.dir? steps).or none) (some a) = _
  rw [Option.or_none]

theorem last_kind?_eq_none_iff : last Step.kind? steps = none ↔ ∀ kind, .kind kind ∉ steps := by
  rw [last_eq_none_iff]
  constructor
  · intro h kind hm
    cases h _ hm
  · intro h s hm
    cases s with
    | kind kind => exact absurd hm (h kind)
    | dir dir => rfl

end Draft

namespace Content

theorem intrinsicDir_or (kind : Kind) (dir : Option Direction) :
    kind.intrinsicDir.or dir = if kind ∈ codeKinds then some .leftToRight else dir := by
  cases kind <;> rfl

/-- The gate that all content comes through. -/
theorem wrap_cases (text : Text) (kind : Kind) (dir : Option Direction)
    (approval : Option Approval) :
    let made := (wrap text kind dir approval).value
    (approval = none ∧ made = .error .missingApproval) ∨
      (∃ a, approval = some a ∧ a.justification.length < 20 ∧
        made = .error (.justificationTooShort a.justification.length)) ∨
      ∃ a, approval = some a ∧ 20 ≤ a.justification.length ∧
        made = .ok ⟨text, kind, if kind ∈ codeKinds then some .leftToRight else dir⟩ := by
  cases approval with
  | none => exact .inl ⟨rfl, rfl⟩
  | some a =>
    rcases Nat.lt_or_ge a.justification.length 20 with hlt | hle
    · refine .inr (.inl ⟨a, rfl, hlt, ?_⟩)
      have hcheck : Approval.check? (some a) =
          .error (.justificationTooShort a.justification.length) := if_pos hlt
      rw [wrap, hcheck]
    · refine .inr (.inr ⟨a, rfl, hle, ?_⟩)
      rw [← intrinsicDir_or]
      exact wrap_value hle text kind dir

theorem wrap_eq_ok_iff : (wrap text kind dir approval).value = .ok c ↔
    (∃ a, approval = some a ∧ 20 ≤ a.justification.length) ∧
      c = ⟨text, kind, if kind ∈ codeKinds then some .leftToRight else dir⟩ := by
  rcases wrap_cases text kind dir approval with
    ⟨rfl, hmade⟩ | ⟨a, rfl, hlt, hmade⟩ | ⟨a, rfl, hle, hmade⟩
  · simp [hmade]
  · rw [hmade]
    constructor
    · intro h
      cases h
    · rintro ⟨⟨b, hb, hle⟩, -⟩
      cases hb
      omega
  · simp [hmade, hle, eq_comm]

theorem wrap_eq_error_iff {cause : Violation} : (wrap text kind dir approval).value = .error cause ↔
    (approval = none ∧ cause = .missingApproval) ∨
      ∃ a, approval = some a ∧ a.justification.length < 20 ∧
        cause = .justificationTooShort a.justification.length := by
  rcases wrap_cases text kind dir approval with
    ⟨rfl, hmade⟩ | ⟨a, rfl, hlt, hmade⟩ | ⟨a, rfl, hle, hmade⟩
  · simp [hmade, eq_comm]
  · simp [hmade, hlt, eq_comm]
  · rw [hmade]
    constructor
    · intro h
      cases h
    · rintro (⟨hb, -⟩ | ⟨b, hb, hlt, -⟩)
      · cases hb
      · cases hb
        omega

end Content

theorem Draft.approve_run_eq_missingKind_iff :
    (((Draft.ofText text).run steps).approve a).value = .error .missingKind ↔
      ∀ kind, .kind kind ∉ steps := by
  rw [← last_kind?_eq_none_iff]
  cases hk : last Step.kind? steps with
  | none => simp [approve_run_of_none hk]
  | some kind =>
    rw [approve_run_of_some hk, Content.wrap_eq_error_iff]
    simp

namespace Sanitizer

variable {v : Value}

theorem wrapHtml_value (h : 20 ≤ a.justification.length) (html : Text) (v : Value) :
    (wrapHtml html v a).value = .ok ⟨html, .html, v.dir⟩ :=
  Content.wrap_value h html .html v.dir

theorem escapeHtml_dir (s : Sanitizer) (v : Value) :
    ∃ html, (s.escapeHtml v).value = .ok ⟨html, .html, v.dir⟩ := by
  unfold escapeHtml
  split
  case h_1 html _ => exact ⟨html, wrapHtml_value (by decide) html v⟩
  case h_2 => exact ⟨_, wrapHtml_value (by decide) _ v⟩

theorem cleanHtml_dir (s : Sanitizer) (extra : TagSet) (v : Value) :
    ∃ html, (s.cleanHtml extra v).value = .ok ⟨html, .html, v.dir⟩ := by
  unfold cleanHtml
  split
  case h_1 html _ => exact ⟨html, wrapHtml_value (by decide) html v⟩
  case h_2 => exact ⟨_, wrapHtml_value (by decide) _ v⟩

theorem changeNewlineToBr_dir (h : v.isKind .html) :
    ∃ html, (changeNewlineToBr v).value = .ok (.content ⟨html, .html, v.dir⟩) := by
  obtain ⟨html, hv⟩ := Option.isSome_iff_exists.1 h
  refine ⟨breakLines html, ?_⟩
  rw [changeNewlineToBr, hv]
  dsimp only
  rw [Journal.value_map, wrapHtml_value (by decide)]
  rfl

end Sanitizer

/-- Whatever content a directive gives has come through the gate. -/
theorem Directive.exists_wrap {s : Sanitizer} {d : Directive} {v : Value}
    (h : (d.apply s v).value = .ok (.content c)) :
    ∃ text kind dir approval, (Content.wrap text kind dir approval).value = .ok c := by
  have hcontent {j : Journal (Except Violation Content)}
      (h : (Directive.ofContent <$> j).value = .ok (.content c)) : j.value = .ok c := by
    rw [Journal.value_map, Directive.ofContent] at h
    cases hj : j.value with
    | error cause =>
      rw [hj] at h
      cases h
    | ok other =>
      rw [hj] at h
      cases h
      rfl
  cases d
  case changeNewlineToBr =>
    rw [apply, Sanitizer.changeNewlineToBr] at h
    split at h
    case h_1 html _ => exact ⟨_, _, _, _, hcontent h⟩
    case h_2 => cases h
  case cleanHtml extra =>
    have hclean := hcontent h
    rw [Sanitizer.cleanHtml] at hclean
    split at hclean
    case h_1 => exact ⟨_, _, _, _, hclean⟩
    case h_2 => exact ⟨_, _, _, _, hclean⟩
  case escapeHtml =>
    have hescape := hcontent h
    rw [Sanitizer.escapeHtml] at hescape
    split at hescape
    case h_1 => exact ⟨_, _, _, _, hescape⟩
    case h_2 => exact ⟨_, _, _, _, hescape⟩
  case escapeHtmlHtmlAttribute =>
    obtain ⟨html, hescape⟩ := Sanitizer.escapeHtml_dir s v
    rw [apply, Journal.value_map, Sanitizer.escapeHtmlHtmlAttribute, Journal.value_map,
      hescape] at h
    cases h
  case filterImageDataUri => exact ⟨_, _, _, _, hcontent h⟩
  case filterTelUri => exact ⟨_, _, _, _, hcontent h⟩
  case filterSmsUri => exact ⟨_, _, _, _, hcontent h⟩
  case filterSipUri => exact ⟨_, _, _, _, hcontent h⟩
  case filterLegacyUriBehavior => exact ⟨_, _, _, _, hcontent h⟩
  -- The other directives give plain text.
  all_goals cases h

theorem Obtained.exists_wrap (h : Obtained c) :
    ∃ text kind dir approval, (Content.wrap text kind dir approval).value = .ok c := by
  cases h with
  | wrapped h => exact ⟨_, _, _, _, h⟩
  | @approved text steps a _ h =>
    cases hk : Draft.last Draft.Step.kind? steps with
    | none =>
      rw [Draft.approve_run_of_none hk] at h
      cases h
    | some kind =>
      rw [Draft.approve_run_of_some hk] at h
      exact ⟨_, _, _, _, h⟩
  | directed h => exact Directive.exists_wrap h

theorem Obtained.dir_of_mem_codeKinds (h : Obtained c) (hk : c.kind ∈ codeKinds) :
    c.dir = some .leftToRight := by
  obtain ⟨text, kind, dir, approval, hwrap⟩ := h.exists_wrap
  obtain ⟨-, rfl⟩ := Content.wrap_eq_ok_iff.1 hwrap
  exact if_pos hk

/-- All ways to trusted content go through one gate. A draft needs a kind and then is what its last
kind and direction make of it, a justification has at least twenty characters, code runs from left
to right, and HTML that is made from a value has the direction of the value. -/
theorem gate_exact (text : Text) (steps : List Draft.Step) (a : Approval) :
    let draft := (Draft.ofText text).run steps
    ((draft.approve a).value = .error .missingKind ↔ ∀ kind, .kind kind ∉ steps) ∧
      (∀ kind, .kind kind ∈ steps → ∃ final, Draft.last Draft.Step.kind? steps = some final ∧
        draft.approve a =
          Content.wrap text final (Draft.last Draft.Step.dir? steps) (some a)) ∧
      (∀ kind dir approval,
        (∀ c, (Content.wrap text kind dir approval).value = .ok c ↔
          (∃ a, approval = some a ∧ 20 ≤ a.justification.length) ∧
            c = ⟨text, kind, if kind ∈ codeKinds then some .leftToRight else dir⟩) ∧
        ∀ cause, (Content.wrap text kind dir approval).value = .error cause ↔
          (approval = none ∧ cause = .missingApproval) ∨
            ∃ a, approval = some a ∧ a.justification.length < 20 ∧
              cause = .justificationTooShort a.justification.length) ∧
      (∀ c, Obtained c → c.kind ∈ codeKinds → c.dir = some .leftToRight) ∧
      ∀ (s : Sanitizer) (extra : TagSet) (v : Value),
        (∃ html, (s.escapeHtml v).value = .ok ⟨html, .html, v.dir⟩) ∧
          (∃ html, (s.cleanHtml extra v).value = .ok ⟨html, .html, v.dir⟩) ∧
          (v.isKind .html → ∃ html,
            (Sanitizer.changeNewlineToBr v).value = .ok (.content ⟨html, .html, v.dir⟩)) := by
  intro draft
  refine ⟨?_, ?_, ?_, ?_, ?_⟩
  · exact Draft.approve_run_eq_missingKind_iff
  · intro kind hm
    cases hk : Draft.last Draft.Step.kind? steps with
    | none => exact absurd hm (Draft.last_kind?_eq_none_iff.1 hk kind)
    | some final => exact ⟨final, rfl, Draft.approve_run_of_some hk text a⟩
  · intro kind dir approval
    exact ⟨fun c => Content.wrap_eq_ok_iff, fun cause => Content.wrap_eq_error_iff⟩
  · intro c h hk
    exact h.dir_of_mem_codeKinds hk
  · intro s extra v
    exact ⟨s.escapeHtml_dir v, s.cleanHtml_dir extra v, Sanitizer.changeNewlineToBr_dir⟩

/-- Characters count, and not the bytes that they take. -/
example : (Content.wrap [] .html none (some ⟨List.replicate 19 'é'⟩)).value =
    .error (.justificationTooShort 19) := by
  decide

end SafeOutput
