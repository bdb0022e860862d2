import Mathlib
import SafeOutput.Text.Basic

namespace SafeOutput.Text

/-- What a pattern takes at the head of a text, what its groups take, and the text behind. -/
structure Hit where
  taken : Text
  groups : List (Nat × Text)
  rest : Text
  deriving DecidableEq, Repr

namespace Hit

def nothing (t : Text) : Hit := ⟨[], [], t⟩

def andThen (h k : Hit) : Hit := ⟨h.taken ++ k.taken, h.groups ++ k.groups, k.rest⟩

/-- A hit behind text that belongs to no group. -/
def after (u : Text) (h : Hit) : Hit := ⟨u ++ h.taken, h.groups, h.rest⟩

def named (label : Nat) (h : Hit) : Hit := { h with groups := (label, h.taken) :: h.groups }

def extend (u : Text) (h : Hit) : Hit := { h with rest := h.rest ++ u }

end Hit

inductive Pattern where
  | nothing
  | one (p : Char → Bool)
  | seq (a b : Pattern)
  | alt (a b : Pattern)
  | many (greedy : Bool) (a : Pattern)
  | group (label : Nat) (a : Pattern)

/-- The hits of a step that is taken over and over, as long as it takes something. -/
def repeated (greedy : Bool) (step : Text → List Hit) (t : Text) : List Hit :=
  let more := (step t).flatMap fun h =>
    if h.rest.length < t.length then (repeated greedy step h.rest).map h.andThen else []
  if greedy then more ++ [.nothing t] else .nothing t :: more
termination_by t.length

namespace Pattern

/-- The hits of a pattern at the head of a text, in the order in which backtracking comes to them:
the first alternative before the second, and more rounds before fewer if repetition is greedy. -/
def hits : Pattern → Text → List Hit
  | nothing, t => [.nothing t]
  | one _, [] => []
  | one p, c :: cs => if p c then [⟨[c], [], cs⟩] else []
  | seq a b, t => (a.hits t).flatMap fun h => (b.hits h.rest).map h.andThen
  | alt a b, t => a.hits t ++ b.hits t
  | many greedy a, t => repeated greedy a.hits t
  | group label a, t => (a.hits t).map (Hit.named label)

/-- The hit that backtracking settles on. -/
def first? (p : Pattern) (t : Text) : Option Hit :=
  (p.hits t).head?

def gapBefore (c : Char) : List (Text × Hit) × Text → List (Text × Hit) × Text
  | ((gap, h) :: more, last) => ((c :: gap, h) :: more, last)
  | ([], last) => ([], c :: last)

/-- The hits of a pattern from left to right, each behind the one before and with the text between
them, and the text behind the last. A hit that takes nothing does not count. -/
def search (p : Pattern) : Text → List (Text × Hit) × Text
  | [] => ([], [])
  | c :: cs =>
    match p.first? (c :: cs) with
    | some h =>
      if h.rest.length ≤ cs.length then
        (([], h) :: (p.search h.rest).1, (p.search h.rest).2)
      else gapBefore c (p.search cs)
    | none => gapBefore c (p.search cs)
termination_by t => t.length

def Matches (p : Pattern) (t : Text) : Prop :=
  ∃ h ∈ p.hits t, h.rest = []

def word : Text → Pattern
  | [] => nothing
  | c :: cs => seq (one (· == c)) (word cs)

end Pattern

variable {c : Char} {t u cs : Text} {p : Char → Bool} {a b d : Pattern} {h k : Hit} {greedy : Bool}
  {step : Text → List Hit}

theorem Hit.andThen_assoc (h k l : Hit) : (h.andThen k).andThen l = h.andThen (k.andThen l) := by
  simp only [Hit.andThen, List.append_assoc]

theorem mem_repeated (hm : h ∈ repeated greedy step t) :
    h = .nothing t ∨ ∃ l ∈ step t, l.rest.length < t.length ∧
      ∃ k ∈ repeated greedy step l.rest, h = l.andThen k := by
  have hcases : h = .nothing t ∨ h ∈ (step t).flatMap fun l =>
      if l.rest.length < t.length then (repeated greedy step l.rest).map l.andThen else [] := by
    rw [repeated] at hm
    split at hm
    · rcases List.mem_append.1 hm with hm | hm
      · exact .inr hm
      · exact .inl (List.mem_singleton.1 hm)
    · exact List.mem_cons.1 hm
  rcases hcases with he | hm
  · exact .inl he
  · obtain ⟨l, hl, hk⟩ := List.mem_flatMap.1 hm
    split at hk
    case isTrue hlt =>
      obtain ⟨k, hrest, rfl⟩ := List.mem_map.1 hk
      exact .inr ⟨l, hl, hlt, k, hrest, rfl⟩
    case isFalse => cases hk

theorem nothing_mem_repeated (greedy : Bool) (step : Text → List Hit) (t : Text) :
    .nothing t ∈ repeated greedy step t := by
  rw [repeated]
  split
  · exact List.mem_append_right _ List.mem_cons_self
  · exact List.mem_cons_self

theorem andThen_mem_repeated (hm : h ∈ step t) (hlt : h.rest.length < t.length)
    (hk : k ∈ repeated greedy step h.rest) : h.andThen k ∈ repeated greedy step t := by
  have hmore : h.andThen k ∈ (step t).flatMap fun l =>
      if l.rest.length < t.length then (repeated greedy step l.rest).map l.andThen else [] := by
    refine List.mem_flatMap.2 ⟨h, hm, ?_⟩
    rw [if_pos hlt]
    exact List.mem_map_of_mem hk
  rw [repeated]
  split
  · exact List.mem_append_left _ hmore
  · exact List.mem_cons_of_mem _ hmore

theorem extend_mem_repeated (hs : ∀ t, ∀ l ∈ step t, l.extend u ∈ step (t ++ u))
    (hm : h ∈ repeated greedy step t) : h.extend u ∈ repeated greedy step (t ++ u) := by
  induction hn : t.length using Nat.strong_induction_on generalizing t h with
  | _ n ih =>
    subst hn
    rcases mem_repeated hm with rfl | ⟨l, hl, hlt, k, hk, rfl⟩
    · exact nothing_mem_repeated greedy step (t ++ u)
    · have hlen : (l.extend u).rest.length < (t ++ u).length := by
        simp only [Hit.extend, List.length_append]
        omega
      exact andThen_mem_repeated (hs t l hl) hlen (ih _ hlt hk rfl)

namespace Pattern

/-- A pattern does not look beyond what it takes. -/
theorem extend_mem_hits (hm : h ∈ a.hits t) (u : Text) : h.extend u ∈ a.hits (t ++ u) := by
  induction a generalizing t h with
  | nothing =>
    obtain rfl := List.mem_singleton.1 hm
    exact List.mem_cons_self
  | one p =>
    cases t with
    | nil => cases hm
    | cons c cs =>
      rw [hits] at hm
      rw [List.cons_append, hits]
      split at hm
      case isTrue hc =>
        obtain rfl := List.mem_singleton.1 hm
        rw [if_pos hc]
        exact List.mem_cons_self
      case isFalse => cases hm
  | seq a b iha ihb =>
    obtain ⟨l, hl, hk⟩ := List.mem_flatMap.1 hm
    obtain ⟨k, hrest, rfl⟩ := List.mem_map.1 hk
    have hmap : (l.extend u).andThen (k.extend u) ∈
        (b.hits (l.rest ++ u)).map (l.extend u).andThen := List.mem_map_of_mem (ihb hrest)
    exact List.mem_flatMap.2 ⟨l.extend u, iha hl, hmap⟩
  | alt a b iha ihb =>
    rcases List.mem_append.1 hm with hm | hm
    · exact List.mem_append_left _ (iha hm)
    · exact List.mem_append_right _ (ihb hm)
  | many greedy a iha => exact extend_mem_repeated (fun t l hl => iha hl) hm
  | group label a iha =>
    obtain ⟨l, hl, rfl⟩ := List.mem_map.1 hm
    exact List.mem_map.2 ⟨l.extend u, iha hl, rfl⟩

theorem hits_seq_seq (a b d : Pattern) (t : Text) :
    (seq (seq a b) d).hits t = (seq a (seq b d)).hits t := by
  simp only [hits, List.flatMap_assoc, List.flatMap_map, List.map_flatMap, List.map_map]
  congr 1
  funext h
  congr 1
  funext k
  congr 1
  funext l
  exact Hit.andThen_assoc h k l

theorem hits_alt_seq (a b d : Pattern) (t : Text) :
    (seq (alt a b) d).hits t = (seq a d).hits t ++ (seq b d).hits t :=
  List.flatMap_append

theorem hits_nothing_seq (a : Pattern) (t : Text) : (seq nothing a).hits t = a.hits t := by
  simp only [hits, List.flatMap_cons, List.flatMap_nil, List.append_nil]
  exact List.map_id _

theorem hits_seq_nothing (a : Pattern) (t : Text) : (seq a nothing).hits t = a.hits t := by
  have hid (h : Hit) : h.andThen (.nothing h.rest) = h := by
    simp only [Hit.andThen, Hit.nothing, List.append_nil]
  simp only [hits, List.map_cons, List.map_nil, hid]
  exact List.flatMap_singleton' _

theorem hits_seq_congr (hb : ∀ t, b.hits t = d.hits t) (a : Pattern) (t : Text) :
    (seq a b).hits t = (seq a d).hits t := by
  simp only [hits, hb]

theorem hits_one_seq (hc : p c = true) (a : Pattern) (cs : Text) :
    (seq (one p) a).hits (c :: cs) = (a.hits cs).map (Hit.after [c]) := by
  simp only [hits, hc, ↓reduceIte, List.flatMap_cons, List.flatMap_nil, List.append_nil]
  rfl

theorem hits_one_seq_of_not (hc : p c = false) (a : Pattern) (cs : Text) :
    (seq (one p) a).hits (c :: cs) = [] := by
  simp only [hits, hc, Bool.false_eq_true, ↓reduceIte, List.flatMap_nil]

theorem hits_many_one (hc : p c = true) (greedy : Bool) (cs : Text) :
    (many greedy (one p)).hits (c :: cs) =
      if greedy then ((many greedy (one p)).hits cs).map (Hit.after [c]) ++ [.nothing (c :: cs)]
      else .nothing (c :: cs) :: ((many greedy (one p)).hits cs).map (Hit.after [c]) := by
  have hlt : cs.length < (c :: cs).length := Nat.lt_succ_self _
  simp only [hits]
  rw [repeated]
  simp only [hits, hc, ↓reduceIte, List.flatMap_cons, List.flatMap_nil, List.append_nil, hlt]
  rfl

theorem hits_many_one_of_not (hc : p c = false) (greedy : Bool) (cs : Text) :
    (many greedy (one p)).hits (c :: cs) = [.nothing (c :: cs)] := by
  simp only [hits]
  rw [repeated]
  simp only [hits, hc, Bool.false_eq_true, ↓reduceIte, List.flatMap_nil, List.nil_append, ite_self]

theorem hits_many_one_nil (greedy : Bool) (p : Char → Bool) :
    (many greedy (one p)).hits [] = [.nothing []] := by
  simp only [hits]
  rw [repeated]
  simp only [hits, List.flatMap_nil, List.nil_append, ite_self]

theorem hits_many (greedy : Bool) (a : Pattern) (t : Text) :
    (many greedy a).hits t =
      let more := (a.hits t).flatMap fun h =>
        if h.rest.length < t.length then ((many greedy a).hits h.rest).map h.andThen else []
      if greedy then more ++ [.nothing t] else .nothing t :: more := by
  rw [hits, repeated]
  rfl

theorem hits_many_one_seq (hc : p c = true) (greedy : Bool) (b : Pattern) (cs : Text) :
    (seq (many greedy (one p)) b).hits (c :: cs) =
      if greedy then ((seq (many greedy (one p)) b).hits cs).map (Hit.after [c]) ++ b.hits (c :: cs)
      else b.hits (c :: cs) ++ ((seq (many greedy (one p)) b).hits cs).map (Hit.after [c]) := by
  have hmore : (((many greedy (one p)).hits cs).map (Hit.after [c])).flatMap
      (fun h => (b.hits h.rest).map h.andThen) =
        ((seq (many greedy (one p)) b).hits cs).map (Hit.after [c]) := by
    simp only [hits, List.flatMap_map, List.map_flatMap, List.map_map]
    rfl
  have hnone : ((b.hits (c :: cs)).map (Hit.nothing (c :: cs)).andThen) = b.hits (c :: cs) :=
    List.map_id _
  rw [hits, hits_many_one hc]
  split
  · rw [List.flatMap_append, hmore, List.flatMap_singleton]
    exact congrArg _ hnone
  · rw [List.flatMap_cons, hmore]
    exact congrArg (· ++ _) hnone

theorem hits_many_one_seq_of_not (hc : p c = false) (greedy : Bool) (b : Pattern) (cs : Text) :
    (seq (many greedy (one p)) b).hits (c :: cs) = b.hits (c :: cs) := by
  rw [hits, hits_many_one_of_not hc, List.flatMap_singleton]
  exact List.map_id _

theorem hits_many_one_seq_nil (greedy : Bool) (p : Char → Bool) (b : Pattern) :
    (seq (many greedy (one p)) b).hits [] = b.hits [] := by
  rw [hits, hits_many_one_nil, List.flatMap_singleton]
  exact List.map_id _

theorem hits_greedy_one (p : Char → Bool) (t : Text) :
    ∃ shorter, (many true (one p)).hits t = ⟨t.takeWhile p, [], t.dropWhile p⟩ :: shorter ∧
      ∀ h ∈ shorter, ∃ u, h.rest = u ++ t.dropWhile p ∧ ∀ c ∈ u, p c := by
  induction t with
  | nil => exact ⟨[], hits_many_one_nil true p, fun h hm => absurd hm List.not_mem_nil⟩
  | cons c cs ih =>
    cases hc : p c with
    | false =>
      refine ⟨[], ?_, fun h hm => absurd hm List.not_mem_nil⟩
      rw [hits_many_one_of_not hc, List.takeWhile_cons_of_neg (by simp [hc]),
        List.dropWhile_cons_of_neg (by simp [hc])]
      rfl
    | true =>
      obtain ⟨shorter, hs, hrest⟩ := ih
      rw [hits_many_one hc, if_pos rfl, hs, List.takeWhile_cons_of_pos hc,
        List.dropWhile_cons_of_pos hc]
      refine ⟨_, rfl, ?_⟩
      intro h hm
      rcases List.mem_append.1 hm with hm | hm
      · obtain ⟨k, hk, rfl⟩ := List.mem_map.1 hm
        exact hrest k hk
      · obtain rfl := List.mem_singleton.1 hm
        refine ⟨c :: cs.takeWhile p, ?_, ?_⟩
        · rw [List.cons_append, List.takeWhile_append_dropWhile]
          rfl
        · rw [List.forall_mem_cons]
          exact ⟨hc, fun d hd => List.mem_takeWhile_imp hd⟩

/-- If the second part fails behind the first hit only where it fails behind all, no other hit of
the first part counts. -/
theorem first?_seq {more : List Hit} (ha : a.hits t = h :: more)
    (hb : b.hits h.rest = [] → ∀ k ∈ more, b.hits k.rest = []) :
    (seq a b).first? t = (b.first? h.rest).map h.andThen := by
  rw [first?, first?, hits, ha, List.flatMap_cons, List.head?_append, List.head?_map]
  cases hr : b.hits h.rest with
  | cons k ks => rfl
  | nil =>
    have hmore : (more.flatMap fun k => (b.hits k.rest).map k.andThen) = [] := by
      rw [List.flatMap_eq_nil_iff]
      intro k hk
      rw [hb hr k hk]
      rfl
    rw [hmore]
    rfl

theorem search_of_first? (hf : a.first? (c :: cs) = some h) (hl : h.rest.length ≤ cs.length) :
    a.search (c :: cs) = (([], h) :: (a.search h.rest).1, (a.search h.rest).2) := by
  rw [search, hf]
  exact if_pos hl

theorem search_of_first?_none (hf : a.first? (c :: cs) = none) :
    a.search (c :: cs) = gapBefore c (a.search cs) := by
  rw [search, hf]

theorem hits_word (w t : Text) :
    (word w).hits t = if w <+: t then [⟨w, [], t.drop w.length⟩] else [] := by
  induction w generalizing t with
  | nil => simp [word, hits, Hit.nothing]
  | cons c w ih =>
    cases t with
    | nil => simp [word, hits]
    | cons d ds =>
      by_cases hd : d = c
      · subst d
        rw [word, hits_one_seq (by simp), ih]
        by_cases hw : w <+: ds
        · simp [hw, Hit.after]
        · simp [hw]
      · rw [word, hits_one_seq_of_not (by simpa using hd), if_neg]
        rw [List.cons_prefix_cons]
        exact fun h => hd h.1.symm

theorem hits_word_seq (w : Text) (c : Char) (t : Text) :
    (seq (word w) (one (· == c))).hits t = (word (w ++ [c])).hits t := by
  induction w generalizing t with
  | nil => exact (hits_nothing_seq _ t).trans (hits_seq_nothing _ t).symm
  | cons d w ih => exact (hits_seq_seq _ _ _ t).trans (hits_seq_congr ih _ t)

theorem matches_greedy_one {p : Char → Bool} {t : Text} :
    (many true (one p)).Matches t ↔ t.all p := by
  obtain ⟨shorter, hhits, hrest⟩ := hits_greedy_one p t
  rw [List.all_eq_true, ← List.dropWhile_eq_nil_iff, Matches, hhits]
  constructor
  · rintro ⟨h, hm, he⟩
    rcases List.mem_cons.1 hm with rfl | hm
    · exact he
    · obtain ⟨u, hu, -⟩ := hrest h hm
      rw [hu] at he
      exact (List.append_eq_nil_iff.1 he).2
  · intro he
    exact ⟨_, List.mem_cons_self, he⟩

theorem matches_one_seq {p : Char → Bool} {a : Pattern} {t : Text} :
    (seq (one p) a).Matches t ↔ ∃ c cs, t = c :: cs ∧ p c ∧ a.Matches cs := by
  constructor
  · rintro ⟨h, hm, he⟩
    cases t with
    | nil => cases hm
    | cons c cs =>
      cases hc : p c with
      | false =>
        rw [hits_one_seq_of_not hc] at hm
        cases hm
      | true =>
        rw [hits_one_seq hc] at hm
        obtain ⟨k, hk, rfl⟩ := List.mem_map.1 hm
        exact ⟨c, cs, rfl, hc, k, hk, he⟩
  · rintro ⟨c, cs, rfl, hc, k, hk, he⟩
    refine ⟨k.after [c], ?_, he⟩
    rw [hits_one_seq hc]
    exact List.mem_map_of_mem hk

end Pattern

end SafeOutput.Text
