import Mathlib
import SafeOutput.Markup.PlainText

namespace SafeOutput.Markup

variable {e : Extraction} {it : Tag} {name : Text} {token : Token} {ts : List Token}

def Tag.opens (name : Text) (it : Tag) : Bool :=
  !it.closing && it.name == some name

def Token.closes (name : Text) : Token → Bool
  | .text _ => false
  | .tag it => it.closing && it.name == some name

theorem Tag.opens_iff : it.opens name ↔ it.closing = false ∧ it.name = some name := by
  rw [Tag.opens, Bool.and_eq_true, Bool.not_eq_true', beq_iff_eq]

namespace Extraction

/-- The frame of a raw text element: white space is kept as its style says, else as it is
outside. -/
def rawFrame (e : Extraction) (name attrs : Text) : Frame :=
  ⟨name, (attributesKeepSpace attrs).getD e.keepsSpace⟩

theorem push_closes (hs : e.skipping = some name) (h : token.closes name) :
    e.push token = { e with skipping := none } := by
  cases token with
  | text gap => cases h
  | tag it =>
    rw [Token.closes, Bool.and_eq_true, beq_iff_eq] at h
    rw [push, pushTag, h.2, hs, h.1]
    exact if_pos (BEq.refl name)

theorem push_of_not_closes (hs : e.skipping = some name) (h : token.closes name = false) :
    e.push token = e := by
  cases token with
  | text gap => rw [push, hs, Option.isSome_some, if_pos rfl]
  | tag it =>
    rw [push, pushTag, hs]
    cases hn : it.name with
    | none => rfl
    | some other =>
      rw [Token.closes, hn] at h
      dsimp only
      rw [if_neg]
      intro hc
      rw [Bool.and_eq_true, beq_iff_eq] at hc
      rw [hc.1, hc.2, BEq.refl] at h
      cases h

theorem run_of_not_closes (hs : e.skipping = some name)
    (h : ∀ token ∈ ts, token.closes name = false) : ts.foldl push e = e := by
  induction ts with
  | nil => rfl
  | cons token ts ih =>
    obtain ⟨htoken, hts⟩ := List.forall_mem_cons.1 h
    rw [List.foldl_cons, push_of_not_closes hs htoken, ih hts]

theorem push_rawText (hs : e.skipping = none) (ho : it.opens name) (hr : isRawText name) :
    e.push (.tag it) = ⟨e.out, e.rawFrame name it.attrs :: e.frames, some name⟩ := by
  obtain ⟨hc, hn⟩ := Tag.opens_iff.1 ho
  have hall : rawTextNames.all fun name => !isVoid name && name != "pre".toList := by decide
  have hname := List.all_eq_true.1 hall name (List.contains_iff_mem.1 hr)
  rw [Bool.and_eq_true, Bool.not_eq_true', bne_iff_ne] at hname
  have hbreak : e.pushBreak name false = { e with skipping := some name } := by
    rw [pushBreak, hr]
    rfl
  rw [push, pushTag, hn, hs, hc]
  dsimp only
  rw [hbreak, hname.1, if_neg Bool.false_ne_true, if_neg Bool.false_ne_true, openFrame,
    beq_eq_false_iff_ne.2 hname.2, Bool.false_or]
  rfl

theorem run_rawText {body : List Token} (hs : e.skipping = none) (ho : it.opens name)
    (hr : isRawText name) (hbody : ∀ token ∈ body, token.closes name = false)
    (rest : List Token) :
    (.tag it :: (body ++ rest)).foldl push e =
      rest.foldl push ⟨e.out, e.rawFrame name it.attrs :: e.frames, some name⟩ := by
  rw [List.foldl_cons, push_rawText hs ho hr, List.foldl_append, run_of_not_closes rfl hbody]

end Extraction

/-- The body of a raw text element, up to the first closer of its name, is not seen. At each point
of it the reader is where it was before, with the one frame of the element added; the closer ends
the skipping and leaves the frame. So what comes behind the body is read the same with any other
body. -/
theorem rawText_opaque (hs : e.skipping = none) (ho : it.opens name) (hr : isRawText name)
    (ts : List Token) :
    let run := fun ts : List Token => (.tag it :: ts).foldl Extraction.push e
    let frames := e.rawFrame name it.attrs :: e.frames
    let body := ts.takeWhile (!·.closes name)
    let behind := ts.dropWhile (!·.closes name)
    (∀ before, before <+: body → run before = ⟨e.out, frames, some name⟩) ∧
      (behind = [] → run ts = ⟨e.out, frames, some name⟩) ∧
      (∀ closer after, behind = closer :: after → closer.closes name ∧
        run (body ++ [closer]) = { e with frames := frames } ∧
        run ts = after.foldl Extraction.push { e with frames := frames }) ∧
      ∀ other, (∀ token ∈ other, token.closes name = false) → run (other ++ behind) = run ts := by
  intro run frames body behind
  have hbody : ∀ token ∈ body, token.closes name = false := by
    intro token hm
    exact (Bool.not_eq_true' _).mp (List.mem_takeWhile_imp (p := (!Token.closes name ·)) hm)
  have hrun {other : List Token} (hother : ∀ token ∈ other, token.closes name = false)
      (rest : List Token) : run (other ++ rest) = rest.foldl Extraction.push _ :=
    Extraction.run_rawText hs ho hr hother rest
  have hts : run ts = run (body ++ behind) := by
    rw [List.takeWhile_append_dropWhile]
  refine ⟨?_, ?_, ?_, ?_⟩
  · rintro before ⟨rest, hb⟩
    have hbefore : ∀ token ∈ before, token.closes name = false := by
      intro token hm
      apply hbody
      rw [← hb]
      exact List.mem_append_left rest hm
    rw [← List.append_nil before, hrun hbefore]
    rfl
  · intro hnil
    rw [hts, hrun hbody, hnil]
    rfl
  · intro closer after hbehind
    have hcloser : closer.closes name := by
      have hne : behind ≠ [] := by
        rw [hbehind]
        exact List.cons_ne_nil closer after
      have hhead := List.head_dropWhile_not (!Token.closes name ·) hne
      simpa [behind, hbehind] using hhead
    have hpush := Extraction.push_closes (e := ⟨e.out, frames, some name⟩) rfl hcloser
    rw [hts, hrun hbody, hrun hbody, hbehind, List.foldl_cons, List.foldl_cons, hpush, hs]
    exact ⟨hcloser, rfl, rfl⟩
  · intro other hother
    rw [hts, hrun hother, hrun hbody]

/-- The body holds the opener of another raw text element, a line break and a closer of the element
outside. The style of the element outlives its closer. -/
theorem rawText_opaque_style :
    let script := "script".toList
    let e : Extraction := ⟨"a".toList, [⟨"p".toList, false⟩], none⟩
    let it : Tag := ⟨[], some script, false, " style='white-space:pre'".toList⟩
    let body : List Token := [.tag ⟨[], some "style".toList, false, []⟩, .text "x".toList,
      .tag ⟨[], some "br".toList, false, []⟩, .tag ⟨[], some "p".toList, true, []⟩]
    let closer : Token := .tag ⟨[], some script, true, []⟩
    let after : List Token := [.text "b  c".toList]
    let run := fun ts : List Token => (.tag it :: ts).foldl Extraction.push e
    e.skipping = none ∧ it.opens script ∧ isRawText script ∧
      run (body ++ closer :: after) = run (closer :: after) ∧
      run (body ++ closer :: after) =
        after.foldl Extraction.push { e with frames := ⟨script, true⟩ :: e.frames } := by
  intro script e it body closer after run
  have ho : it.opens script := by decide
  have hr : isRawText script := by decide
  have hframe : e.rawFrame script it.attrs = ⟨script, true⟩ := by decide +kernel
  obtain ⟨-, -, hclosed, hother⟩ := rawText_opaque (e := e) rfl ho hr (body ++ closer :: after)
  obtain ⟨-, -, hend⟩ := hclosed closer after rfl
  rw [hframe] at hend
  exact ⟨rfl, ho, hr, (hother [] nofun).symm, hend⟩

end SafeOutput.Markup
