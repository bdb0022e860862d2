import Mathlib
import SafeOutput.Proofs.Nesting

namespace SafeOutput.Markup

variable {s : Nesting} {name : Text} {names stack opened inner rest : List Text}
  {t : BareTag} {ts body : List BareTag} {counts : Std.HashMap Text Nat}

/-- What a tag becomes by the stack of open elements alone, and the stack behind it. A closer is
looked for on all of the stack. -/
def stackStep (stack : List Text) (t : BareTag) : List BareTag × List Text :=
  if t.closing then
    if t.name ∈ stack then
      ((stack.takeWhile (· ≠ t.name) ++ [t.name]).map BareTag.closer,
        (stack.dropWhile (· ≠ t.name)).tail)
    else ([], stack)
  else ([t], if isVoid t.name then stack else t.name :: stack)

def stackRun (stack : List Text) : List BareTag → List (List BareTag) × List Text
  | [] => ([], stack)
  | t :: ts =>
    let behind := stackRun (stackStep stack t).2 ts
    ((stackStep stack t).1 :: behind.1, behind.2)

def stackBalance (ts : List BareTag) : Balanced :=
  ⟨(stackRun [] ts).1, (stackRun [] ts).2.map BareTag.closer⟩

def strayCount (stack : List Text) : List BareTag → Nat
  | [] => 0
  | t :: ts =>
    (if t.closing ∧ t.name ∉ stack then 1 else 0) + strayCount (stackStep stack t).2 ts

theorem stackStep_open (h : t.closing = false) :
    stackStep stack t = ([t], if isVoid t.name then stack else t.name :: stack) := by
  simp only [stackStep, h, Bool.false_eq_true, ↓reduceIte]

theorem stackStep_stray (h : t.closing = true) (hn : t.name ∉ stack) :
    stackStep stack t = ([], stack) := by
  simp only [stackStep, h, hn, ↓reduceIte]

theorem stackStep_close (h : t.closing = true) (hi : t.name ∉ inner) :
    stackStep (inner ++ t.name :: rest) t = ((inner ++ [t.name]).map BareTag.closer, rest) := by
  have hm : t.name ∈ inner ++ t.name :: rest := List.mem_append_right inner List.mem_cons_self
  have hne : ∀ n ∈ inner, decide (n ≠ t.name) = true := by
    intro n hn
    rw [decide_eq_true_iff]
    rintro rfl
    exact hi hn
  simp only [stackStep, h, hm, ↓reduceIte]
  rw [List.takeWhile_append_of_pos hne, List.dropWhile_append_of_pos hne,
    List.takeWhile_cons_of_neg (by simp), List.dropWhile_cons_of_neg (by simp), List.append_nil,
    List.tail_cons]

/-- With counts that are right, a step goes as the stack alone has it. -/
theorem Nesting.Counted.step_eq (h : s.Counted) (t : BareTag) :
    ((s.step t).1, (s.step t).2.stack) = stackStep s.stack t := by
  rcases h.step_cases t with ⟨ho, he⟩ | ⟨hc, hn, he⟩ | ⟨hc, inner, rest, hi, hs, he⟩
  · rw [he, stackStep_open ho]
    dsimp only
    split <;> rfl
  · rw [he, stackStep_stray hc hn]
  · rw [he, hs, stackStep_close hc hi]

theorem Nesting.Counted.run_eq (h : s.Counted) (ts : List BareTag) :
    ((s.run ts).1, (s.run ts).2.stack) = stackRun s.stack ts := by
  induction ts generalizing s with
  | nil => rfl
  | cons t ts ih =>
    have hrest := ih (h.step t)
    rw [Nesting.run_cons, stackRun, ← h.step_eq t]
    dsimp only
    rw [← hrest]

theorem run_empty_eq (ts : List BareTag) :
    ((Nesting.empty.run ts).1, (Nesting.empty.run ts).2.stack) = stackRun [] ts :=
  Nesting.Counted.empty.run_eq ts

/-- The names can be counted down one after the other, and no count is at zero when its turn
comes. -/
def CountsDown (counts : Std.HashMap Text Nat) : List Text → Prop
  | [] => True
  | n :: ns => 0 < counts.getD n 0 ∧ CountsDown (uncount counts [n]) ns

theorem countsDown_of_count_le (h : ∀ n, names.count n ≤ counts.getD n 0) :
    CountsDown counts names := by
  induction names generalizing counts with
  | nil => trivial
  | cons n ns ih =>
    constructor
    · have hn := h n
      rw [List.count_cons_self] at hn
      omega
    · apply ih
      intro m
      have hm := h m
      rw [List.count_cons] at hm
      rw [getD_uncount, List.count_singleton]
      omega

/-- A closer that the counts let through finds its element on the stack, and the counts of what it
closes can be taken down in any order. -/
def Nesting.Closes (s : Nesting) (name : Text) : Prop :=
  s.counts.getD name 0 ≠ 0 →
    ∃ popped rest, popThrough? name s.stack = some (popped, rest) ∧
      ∀ order, order.Perm popped → CountsDown s.counts order

theorem Nesting.Counted.closes (h : s.Counted) (name : Text) : s.Closes name := by
  intro hne
  have hm : name ∈ s.stack := by
    rw [h name] at hne
    exact List.count_pos_iff.1 (Nat.pos_of_ne_zero hne)
  obtain ⟨⟨popped, rest⟩, hp⟩ := Option.isSome_iff_exists.1 (popThrough?_isSome hm)
  refine ⟨popped, rest, hp, ?_⟩
  intro order ho
  apply countsDown_of_count_le
  intro n
  -- What is closed is the top of the stack, so the counts hold at least as much of each name.
  obtain ⟨inner, rfl, -, hs⟩ := popThrough?_eq_some hp
  have hstack : s.stack = (inner ++ [name]) ++ rest := by
    rw [hs, List.append_assoc]
    rfl
  rw [ho.count_eq, h n, hstack]
  exact (List.sublist_append_left _ rest).count_le n

theorem BareTag.render_ne_nil (t : BareTag) : t.render ≠ [] :=
  List.append_ne_nil_of_right_ne_nil _ (List.cons_ne_nil _ _)

theorem renderTags_eq_nil_iff : renderTags ts = [] ↔ ts = [] := by
  rw [renderTags, List.flatMap_eq_nil_iff]
  constructor
  · intro h
    rw [List.eq_nil_iff_forall_not_mem]
    intro t ht
    exact t.render_ne_nil (h t ht)
  · rintro rfl t ht
    cases ht

theorem Balanced.dropped_eq (b : Balanced) (ts : List BareTag) :
    b.dropped ts =
      (ts.zip (b.rendered.map renderTags)).countP fun p => p.1.closing && p.2.isEmpty := by
  rw [Balanced.dropped, List.zip_map_right, List.countP_map]
  apply List.countP_congr
  intro p _
  simp only [Function.comp_apply, Prod.map_fst, Prod.map_snd, id_eq, Bool.and_eq_true,
    List.isEmpty_iff, renderTags_eq_nil_iff]

theorem stackStep_isEmpty_iff (h : t.closing = true) :
    (stackStep stack t).1.isEmpty ↔ t.name ∉ stack := by
  by_cases hm : t.name ∈ stack
  · simp [stackStep, h, hm]
  · simp [stackStep, h, hm]

theorem dropped_stackRun (stack : List Text) (ts close : List BareTag) :
    Balanced.dropped ⟨(stackRun stack ts).1, close⟩ ts = strayCount stack ts := by
  induction ts generalizing stack with
  | nil => rfl
  | cons t ts ih =>
    rw [strayCount, ← ih, Balanced.dropped, stackRun, List.zip_cons_cons, List.countP_cons,
      Nat.add_comm]
    congr 1
    apply if_congr _ rfl rfl
    rw [Bool.and_eq_true]
    exact and_congr_right stackStep_isEmpty_iff

/-- Balancing with counts is balancing with the stack alone. All along the run the counts tell how
often each name is on the stack, so that no search of the stack fails and no count falls below
zero. -/
theorem balance_eq_stackBalance (ts : List BareTag) :
    balance ts = stackBalance ts ∧
      (balance ts).rendered.length = ts.length ∧
      (balance ts).dropped ts = strayCount [] ts ∧
      ((ts.zip ((balance ts).rendered.map renderTags)).countP fun p =>
        p.1.closing && p.2.isEmpty) = strayCount [] ts ∧
      ∀ us, us <+: ts →
        (Nesting.empty.run us).2.stack = (stackRun [] us).2 ∧
          (Nesting.empty.run us).2.Counted ∧ ∀ name, (Nesting.empty.run us).2.Closes name := by
  have hrun := run_empty_eq ts
  have hbalance : balance ts = stackBalance ts := by
    rw [balance_eq, stackBalance, ← hrun]
  have hdropped : (balance ts).dropped ts = strayCount [] ts := by
    rw [hbalance]
    exact dropped_stackRun [] ts _
  refine ⟨hbalance, Nesting.run_length _ _, hdropped, ?_, ?_⟩
  · rw [← Balanced.dropped_eq, hdropped]
  · intro us _
    have hcounted := Nesting.Counted.empty.run us
    exact ⟨congrArg Prod.snd (run_empty_eq us), hcounted, hcounted.closes⟩

/-- The closer of a list closes the item inside it, whose own closer then has nothing to close. -/
theorem balance_eq_stackBalance_list :
    let ul := "ul".toList
    let li := "li".toList
    let ts : List BareTag := [.opener ul, .opener li, .closer ul, .closer li]
    let s := (Nesting.empty.run (ts.take 2)).2
    ts.take 2 <+: ts ∧ s.stack = [li, ul] ∧ s.counts.getD ul 0 = 1 ∧ s.Closes ul ∧
      (balance ts).rendered = [[.opener ul], [.opener li], [.closer li, .closer ul], []] ∧
      (balance ts).dropped ts = 1 := by
  intro ul li ts s
  have hp : ts.take 2 <+: ts := List.take_prefix 2 ts
  obtain ⟨hbalance, -, hdropped, -, hstates⟩ := balance_eq_stackBalance ts
  obtain ⟨hstack, hcounted, hcloses⟩ := hstates (ts.take 2) hp
  have hs : s.stack = [li, ul] := hstack.trans (by decide)
  have hcount : s.counts.getD ul 0 = 1 := by
    rw [hcounted ul, hs]
    decide
  refine ⟨hp, hs, hcount, hcloses ul, ?_, hdropped.trans (by decide)⟩
  rw [hbalance]
  decide

/-- Runs of tags that make up a forest: void elements, and elements with a body. -/
inductive Nested : List BareTag → Prop where
  | nil : Nested []
  | void {name : Text} {ts : List BareTag} :
    isVoid name = true → Nested ts → Nested (.opener name :: ts)
  | element {name : Text} {body ts : List BareTag} :
    isVoid name = false → Nested body → Nested ts →
      Nested (.opener name :: (body ++ .closer name :: ts))

theorem Nested.nest_eq (h : Nested ts) (opened : List Text) : nest opened ts = some opened := by
  induction h generalizing opened with
  | nil => rfl
  | void hv _ ih =>
    rw [nest_cons, nestStep_of_open rfl]
    simp only [BareTag.opener, hv, ↓reduceIte, Option.bind_some]
    exact ih opened
  | @element name body ts hv _ _ ihbody ih =>
    rw [nest_cons, nestStep_of_open rfl]
    simp only [BareTag.opener, hv, Bool.false_eq_true, ↓reduceIte, Option.bind_some]
    rw [nest_append, ihbody, Option.bind_some, nest_cons, nestStep_closer, Option.bind_some]
    exact ih opened

/-- What may follow where the elements are open: for each of them, the rest of its body and its
closer. -/
def NestedIn : List Text → List BareTag → Prop
  | [], ts => Nested ts
  | n :: ns, ts =>
    ∃ body behind, ts = body ++ .closer n :: behind ∧ Nested body ∧ NestedIn ns behind

theorem NestedIn.void (hv : isVoid name = true) (h : NestedIn opened ts) :
    NestedIn opened (.opener name :: ts) := by
  cases opened with
  | nil => exact Nested.void hv h
  | cons n ns =>
    obtain ⟨body, behind, rfl, hbody, hbehind⟩ := h
    exact ⟨_, behind, rfl, hbody.void hv, hbehind⟩

theorem NestedIn.element (hv : isVoid name = false) (hb : Nested body) (h : NestedIn opened ts) :
    NestedIn opened (.opener name :: (body ++ .closer name :: ts)) := by
  cases opened with
  | nil => exact Nested.element hv hb h
  | cons n ns =>
    obtain ⟨more, behind, rfl, hmore, hbehind⟩ := h
    refine ⟨_, behind, ?_, Nested.element hv hb hmore, hbehind⟩
    simp only [List.cons_append, List.append_assoc]

theorem nestedIn_of_nest (h : nest opened ts = some []) : NestedIn opened ts := by
  -- An opener makes one more body to finish, which the rest of the run then splits off.
  induction ts generalizing opened with
  | nil =>
    cases h
    exact Nested.nil
  | cons t ts ih =>
    obtain ⟨mid, hstep, hrest⟩ := Option.bind_eq_some_iff.1 h
    obtain ⟨name, closing⟩ := t
    cases closing with
    | true =>
      rw [nestStep_of_close rfl hstep]
      exact ⟨[], ts, rfl, .nil, ih hrest⟩
    | false =>
      rw [nestStep_of_open rfl, Option.some.injEq] at hstep
      subst mid
      cases hv : isVoid name with
      | true =>
        simp only [hv, ↓reduceIte] at hrest
        exact (ih hrest).void hv
      | false =>
        simp only [hv, Bool.false_eq_true, ↓reduceIte] at hrest
        obtain ⟨body, behind, rfl, hbody, hbehind⟩ := ih hrest
        exact hbehind.element hv hbody

/-- Closers that each name the innermost open element are those of a forest. -/
theorem wellNested_iff_nested : WellNested ts ↔ Nested ts :=
  ⟨fun h => nestedIn_of_nest h, fun h => h.nest_eq []⟩

theorem Balanced.emitted_of_map (ts : List BareTag) :
    Balanced.emitted ⟨ts.map ([·]), []⟩ = ts := by
  rw [Balanced.emitted, List.append_nil, ← List.flatMap_def, List.flatMap_singleton']

theorem Balanced.dropped_of_map (ts : List BareTag) :
    Balanced.dropped ⟨ts.map ([·]), []⟩ ts = 0 := by
  rw [Balanced.dropped, List.countP_eq_zero]
  rintro ⟨t, out⟩ hm
  obtain ⟨u, -, rfl⟩ := List.mem_map.1 (List.of_mem_zip hm).2
  simp

/-- The balanced runs are the well nested ones, and balancing takes every run to one of them: what
it emits is a forest, which a further balancing leaves as it is. -/
theorem balance_retraction (ts : List BareTag) :
    WellNested (balance ts).emitted ∧ Nested (balance ts).emitted ∧
      (WellNested ts ↔ balance ts = ⟨ts.map ([·]), []⟩ ∧ (balance ts).dropped ts = 0) ∧
      balance (balance ts).emitted = ⟨(balance ts).emitted.map ([·]), []⟩ := by
  have hout := balance_emitted_wellNested ts
  refine ⟨hout, wellNested_iff_nested.1 hout, ?_, balance_of_wellNested hout⟩
  constructor
  · intro h
    have hb := balance_of_wellNested h
    rw [hb]
    exact ⟨rfl, Balanced.dropped_of_map ts⟩
  · rintro ⟨hb, -⟩
    rw [hb, Balanced.emitted_of_map] at hout
    exact hout

end SafeOutput.Markup
