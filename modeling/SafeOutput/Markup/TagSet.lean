import SafeOutput.Text.Lowercase

namespace SafeOutput.Markup

open Text

/-- Inserts a name into an ascending list of names. -/
def insertName (x : Text) : List Text → List Text
  | [] => [x]
  | y :: ys => if x < y then x :: y :: ys else if x = y then y :: ys else y :: insertName x ys

@[simp] theorem mem_insertName {x z : Text} {ys : List Text} :
    z ∈ insertName x ys ↔ z = x ∨ z ∈ ys := by
  induction ys with
  | nil => simp [insertName]
  | cons y ys ih => grind [insertName]

theorem insertName_pairwise {x : Text} {ys : List Text} (h : ys.Pairwise (· < ·)) :
    (insertName x ys).Pairwise (· < ·) := by
  induction ys with
  | nil => simp [insertName]
  | cons y ys ih =>
    obtain ⟨hy, hys⟩ := List.pairwise_cons.1 h
    unfold insertName
    split
    case isTrue hlt =>
      refine List.pairwise_cons.2 ⟨fun z hz => ?_, h⟩
      rcases List.mem_cons.1 hz with rfl | hz
      · exact hlt
      · exact List.lt_trans hlt (hy z hz)
    case isFalse hlt =>
      split
      · exact h
      case isFalse hne =>
        refine List.pairwise_cons.2 ⟨fun z hz => ?_, ih hys⟩
        rcases mem_insertName.1 hz with rfl | hz
        · grind
        · exact hy z hz

/-- A set of tag names, in the order of their code points. -/
structure TagSet where
  names : List Text
  ascending : names.Pairwise (· < ·)

namespace TagSet

def empty : TagSet := ⟨[], .nil⟩

instance : EmptyCollection TagSet := ⟨empty⟩

def insert (s : TagSet) (name : Text) : TagSet :=
  ⟨insertName name s.names, insertName_pairwise s.ascending⟩

/-- The set of the names in lower case. -/
def ofList (names : List Text) : TagSet :=
  names.foldl (fun s n => s.insert (lowercase n)) ∅

def union (s t : TagSet) : TagSet :=
  t.names.foldl insert s

def contains (s : TagSet) (name : Text) : Bool :=
  s.names.contains name

def isEmpty (s : TagSet) : Bool :=
  s.names.isEmpty

def size (s : TagSet) : Nat :=
  s.names.length

instance : Membership Text TagSet := ⟨fun s name => name ∈ s.names⟩

/-- Inline formatting only. -/
def defaultSafe : TagSet :=
  ofList (["b", "br", "em", "i", "s", "strong", "sub", "sup", "u"].map String.toList)

end TagSet

end SafeOutput.Markup
