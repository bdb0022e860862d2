import Mathlib
import SafeOutput.Markup.Balance

namespace SafeOutput.Markup

variable {s : Nesting} {name : Text} {names opened stack popped rest : List Text}
  {t : BareTag} {ts : List BareTag}

/-- The open elements behind a tag, innermost first. A closer must name the innermost of them, and a
void element does not stay open. -/
def nestStep (opened : List Text) (t : BareTag) : Option (List Text) :=
  if t.closing then
    match opened with
    | [] => none
    | n :: ns => if n = t.name then some ns else none
  else some (if isVoid t.name then opened else t.name :: opened)

/-- The open elements behind a run of tags, if each of its closers names the innermost one. -/
def nest (opened : List Text) (ts : List BareTag) : Option (List Text) :=
  ts.foldlM nestStep opened

/-- Each closer names the innermost open element, and none is left open. -/
def WellNested (ts : List BareTag) : Prop :=
  nest [] ts = some []

instance (ts : List BareTag) : Decidable (WellNested ts) :=
  inferInstanceAs (Decidable (nest [] ts = some []))

@[simp] theorem nest_nil (opened : List Text) : nest opened [] = some opened := rfl

@[simp] theorem nest_cons (opened : List Text) (t : BareTag) (ts : List BareTag) :
    nest opened (t :: ts) = (nestStep opened t).bind (nest · ts) := rfl

theorem nest_append (opened : List Text) (ts us : List BareTag) :
    nest opened (ts ++ us) = (nest opened ts).bind (nest · us) :=
  List.foldlM_append

theorem nestStep_of_open (h : t.closing = false) :
    nestStep opened t = some (if isVoid t.name then opened else t.name :: opened) := by
  simp only [nestStep, h, Bool.false_eq_true, ↓reduceIte]

theorem nestStep_of_close (h : t.closing = true) (hs : nestStep opened t = some rest) :
    opened = t.name :: rest := by
  simp only [nestStep, h, ↓reduceIte] at hs
  cases opened with
  | nil => cases hs
  | cons n ns =>
    simp only [Option.ite_none_right_eq_some, Option.some.injEq] at hs
    rw [hs.1, hs.2]

@[simp] theorem nestStep_closer (name : Text) (opened : List Text) :
    nestStep (name :: opened) (.closer name) = some opened := by
  simp only [nestStep, BareTag.closer, ↓reduceIte]

theorem nest_closers (popped rest : List Text) :
    nest (popped ++ rest) (popped.map BareTag.closer) = some rest := by
  induction popped with
  | nil => rfl
  | cons n ns ih =>
    rw [List.cons_append, List.map_cons, nest_cons, nestStep_closer]
    exact ih

theorem popThrough?_eq_some (h : popThrough? name stack = some (popped, rest)) :
    ∃ inner, popped = inner ++ [name] ∧ name ∉ inner ∧ stack = inner ++ name :: rest := by
  induction stack generalizing popped with
  | nil => cases h
  | cons n ns ih =>
    rw [popThrough?] at h
    split at h
    case isTrue hn =>
      cases h
      exact ⟨[], by rw [hn]; rfl, List.not_mem_nil, by rw [hn]; rfl⟩
    case isFalse hn =>
      obtain ⟨⟨p, r⟩, hp, he⟩ := Option.map_eq_some_iff.1 h
      cases he
      obtain ⟨inner, rfl, hi, rfl⟩ := ih hp
      exact ⟨n :: inner, rfl, List.not_mem_cons_of_ne_of_not_mem (Ne.symm hn) hi, rfl⟩

theorem popThrough?_isSome (h : name ∈ stack) : (popThrough? name stack).isSome := by
  induction stack with
  | nil => cases h
  | cons n ns ih =>
    rw [popThrough?]
    split
    · rfl
    case isFalse hn =>
      have hm := (List.mem_cons.1 h).resolve_left (Ne.symm hn)
      rw [Option.isSome_map]
      exact ih hm

/-- The counts tell how often each name is on the stack. -/
def Nesting.Counted (s : Nesting) : Prop :=
  ∀ name, s.counts.getD name 0 = s.stack.count name

theorem Nesting.Counted.empty : Nesting.empty.Counted := by
  intro name
  simp [Nesting.empty]

theorem Nesting.Counted.push (h : s.Counted) (name : Text) : (s.push name).Counted := by
  intro n
  simp only [Nesting.push, Std.HashMap.getD_insert, List.count_cons, h name, h n]
  by_cases hn : name = n
  · subst n
    simp
  · simp [hn]

theorem getD_uncount (counts : Std.HashMap Text Nat) (names : List Text) (name : Text) :
    (uncount counts names).getD name 0 = counts.getD name 0 - names.count name := by
  induction names generalizing counts with
  | nil => rfl
  | cons n ns ih =>
    have hu : uncount counts (n :: ns) = uncount (counts.insert n (counts.getD n 0 - 1)) ns := rfl
    rw [hu, ih, Std.HashMap.getD_insert, List.count_cons]
    by_cases hn : n = name
    · subst n
      simp only [BEq.rfl, ↓reduceIte]
      omega
    · simp [hn]

theorem Nesting.Counted.pop (h : s.Counted) (hs : s.stack = popped ++ rest) :
    Nesting.Counted ⟨rest, uncount s.counts popped⟩ := by
  intro name
  rw [getD_uncount, h name, hs, List.count_append, Nat.add_sub_cancel_left]

/-- What a step can do: an opener is kept, a closer of nothing open is dropped, and any other closer
closes the stack down to the nearest element of its name. -/
theorem Nesting.Counted.step_cases (h : s.Counted) (t : BareTag) :
    (t.closing = false ∧ s.step t = ([t], if isVoid t.name then s else s.push t.name)) ∨
    (t.closing = true ∧ t.name ∉ s.stack ∧ s.step t = ([], s)) ∨
    (t.closing = true ∧ ∃ inner rest, t.name ∉ inner ∧ s.stack = inner ++ t.name :: rest ∧
      s.step t = ((inner ++ [t.name]).map BareTag.closer,
        ⟨rest, uncount s.counts (inner ++ [t.name])⟩)) := by
  cases hc : t.closing with
  | false => exact .inl ⟨rfl, by simp only [Nesting.step, hc, Bool.false_eq_true, ↓reduceIte]⟩
  | true =>
    right
    by_cases hm : t.name ∈ s.stack
    · right
      have hn : s.counts.getD t.name 0 ≠ 0 := by
        rw [h t.name]
        exact Nat.ne_of_gt (List.count_pos_iff.2 hm)
      obtain ⟨⟨popped, rest⟩, hp⟩ := Option.isSome_iff_exists.1 (popThrough?_isSome hm)
      obtain ⟨inner, rfl, hi, hs⟩ := popThrough?_eq_some hp
      exact ⟨rfl, inner, rest, hi, hs, by simp only [Nesting.step, hc, ↓reduceIte, hn, hp]⟩
    · left
      have hn : s.counts.getD t.name 0 = 0 := by
        rw [h t.name]
        exact List.count_eq_zero.2 hm
      exact ⟨rfl, hm, by simp only [Nesting.step, hc, ↓reduceIte, hn]⟩

theorem Nesting.Counted.step (h : s.Counted) (t : BareTag) : (s.step t).2.Counted := by
  rcases h.step_cases t with ⟨_, he⟩ | ⟨_, _, he⟩ | ⟨_, inner, rest, _, hs, he⟩
  · rw [he]
    dsimp only
    split
    · exact h
    · exact h.push t.name
  · rw [he]
    exact h
  · rw [he]
    exact h.pop (by rw [hs, List.append_assoc]; rfl)

theorem Nesting.Counted.run (h : s.Counted) (ts : List BareTag) : (s.run ts).2.Counted := by
  induction ts generalizing s with
  | nil => exact h
  | cons t ts ih => exact ih (h.step t)

@[simp] theorem Nesting.run_cons (s : Nesting) (t : BareTag) (ts : List BareTag) :
    s.run (t :: ts) = ((s.step t).1 :: ((s.step t).2.run ts).1, ((s.step t).2.run ts).2) := rfl

/-- The tags that a step emits lead strictly from one stack to the other. -/
theorem Nesting.Counted.nest_step (h : s.Counted) (t : BareTag) :
    nest s.stack (s.step t).1 = some (s.step t).2.stack := by
  rcases h.step_cases t with ⟨ho, he⟩ | ⟨_, _, he⟩ | ⟨_, inner, rest, _, hs, he⟩
  · rw [he, nest_cons, nestStep_of_open ho, Option.bind_some, nest_nil]
    dsimp only
    split <;> rfl
  · rw [he, nest_nil]
  · rw [he, hs, ← List.singleton_append, ← List.append_assoc]
    exact nest_closers _ _

theorem Nesting.Counted.nest_run (h : s.Counted) (ts : List BareTag) :
    nest s.stack (s.run ts).1.flatten = some (s.run ts).2.stack := by
  induction ts generalizing s with
  | nil => rfl
  | cons t ts ih =>
    rw [Nesting.run_cons, List.flatten_cons, nest_append, h.nest_step t]
    exact ih (h.step t)

theorem balance_eq (ts : List BareTag) :
    balance ts =
      ⟨(Nesting.empty.run ts).1, (Nesting.empty.run ts).2.stack.map BareTag.closer⟩ := rfl

def Balanced.emitted (b : Balanced) : List BareTag :=
  b.rendered.flatten ++ b.autoClose

theorem balance_emitted_wellNested (ts : List BareTag) : WellNested (balance ts).emitted := by
  have hr : nest [] (Nesting.empty.run ts).1.flatten = some (Nesting.empty.run ts).2.stack :=
    Nesting.Counted.empty.nest_run ts
  have hc := nest_closers (Nesting.empty.run ts).2.stack []
  rw [List.append_nil] at hc
  rw [WellNested, Balanced.emitted, balance_eq, nest_append, hr, Option.bind_some]
  exact hc

theorem Nesting.Counted.step_of_nestStep (h : s.Counted) (hn : nestStep s.stack t = some rest) :
    (s.step t).1 = [t] ∧ (s.step t).2.stack = rest := by
  rcases h.step_cases t with ⟨ho, he⟩ | ⟨hc, hx, _⟩ | ⟨hc, inner, r, hi, hs, he⟩
  · rw [nestStep_of_open ho] at hn
    rw [he]
    refine ⟨rfl, ?_⟩
    rw [← Option.some.inj hn]
    dsimp only
    split <;> rfl
  · rw [nestStep_of_close hc hn] at hx
    exact absurd List.mem_cons_self hx
  · have hd := nestStep_of_close hc hn
    -- The closer names the innermost element, so nothing is closed on the way to it.
    cases inner with
    | nil =>
      rw [hs, List.nil_append, List.cons.injEq] at hd
      rw [he, ← hd.2, List.nil_append, List.map_singleton, BareTag.closer, ← hc]
      exact ⟨rfl, rfl⟩
    | cons n ns =>
      rw [hs, List.cons_append, List.cons.injEq] at hd
      rw [hd.1] at hi
      exact absurd List.mem_cons_self hi

theorem Nesting.Counted.run_of_nest (h : s.Counted) (hn : nest s.stack ts = some rest) :
    (s.run ts).1 = ts.map ([·]) ∧ (s.run ts).2.stack = rest := by
  induction ts generalizing s with
  | nil => exact ⟨rfl, Option.some.inj hn⟩
  | cons t ts ih =>
    obtain ⟨mid, hm, hr⟩ := Option.bind_eq_some_iff.1 hn
    obtain ⟨hstep, rfl⟩ := h.step_of_nestStep hm
    obtain ⟨hout, hst⟩ := ih (h.step t) hr
    rw [Nesting.run_cons, hstep, hout, List.map_cons]
    exact ⟨rfl, hst⟩

theorem balance_of_wellNested (h : WellNested ts) : balance ts = ⟨ts.map ([·]), []⟩ := by
  obtain ⟨hout, hst⟩ := Nesting.Counted.empty.run_of_nest h
  rw [balance_eq, hout, hst, List.map_nil]

section Names

variable {P : Text → Prop}

theorem Nesting.Counted.step_names (h : s.Counted) (hs : ∀ n ∈ s.stack, P n) (ht : P t.name) :
    (∀ u ∈ (s.step t).1, P u.name) ∧ ∀ n ∈ (s.step t).2.stack, P n := by
  rcases h.step_cases t with ⟨_, he⟩ | ⟨_, _, he⟩ | ⟨_, inner, rest, _, hd, he⟩
  · rw [he]
    refine ⟨List.forall_mem_singleton.2 ht, ?_⟩
    dsimp only
    split
    · exact hs
    · exact List.forall_mem_cons.2 ⟨ht, hs⟩
  · rw [he]
    exact ⟨fun _ hu => absurd hu List.not_mem_nil, hs⟩
  · rw [hd, List.forall_mem_append, List.forall_mem_cons] at hs
    rw [he]
    refine ⟨?_, hs.2.2⟩
    rw [List.forall_mem_map, List.forall_mem_append, List.forall_mem_singleton]
    exact ⟨hs.1, hs.2.1⟩

theorem Nesting.Counted.run_names (h : s.Counted) (hs : ∀ n ∈ s.stack, P n)
    (ht : ∀ t ∈ ts, P t.name) :
    (∀ u ∈ (s.run ts).1.flatten, P u.name) ∧ ∀ n ∈ (s.run ts).2.stack, P n := by
  induction ts generalizing s with
  | nil => exact ⟨fun _ hu => absurd hu List.not_mem_nil, hs⟩
  | cons t ts ih =>
    obtain ⟨hout, hst⟩ := h.step_names hs (ht t List.mem_cons_self)
    obtain ⟨houts, hfinal⟩ := ih (h.step t) hst fun u hu => ht u (List.mem_cons_of_mem t hu)
    exact ⟨List.forall_mem_append.2 ⟨hout, houts⟩, hfinal⟩

theorem balance_names (ht : ∀ t ∈ ts, P t.name) : ∀ u ∈ (balance ts).emitted, P u.name := by
  obtain ⟨hout, hst⟩ := Nesting.Counted.empty.run_names
    (fun _ hn => absurd hn List.not_mem_nil) ht
  exact List.forall_mem_append.2 ⟨hout, List.forall_mem_map.2 hst⟩

end Names

theorem Nesting.run_length (s : Nesting) (ts : List BareTag) : (s.run ts).1.length = ts.length := by
  induction ts generalizing s with
  | nil => rfl
  | cons t ts ih => exact congrArg Nat.succ (ih _)

end SafeOutput.Markup
