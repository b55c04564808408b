import Mathlib.Data.List.Basic
import Rollout.Proofs.Url.Percent
import Rollout.Url.Path
/-!
# Segments of a path

Segments that are written one after the other are added to a path as they are, unless one of them
moves within the path. Such a segment is always a loss: what the path stands for in the end has
fewer bytes than what was written.
-/

namespace Rollout.Url

open Text (hexDigit?)

/-! ## Texts of segments -/

theorem toList_segmentsText (list : List String) :
    (segmentsText list).toList = list.flatMap fun s => '/' :: s.toList := by
  unfold segmentsText
  induction list with
  | nil => rfl
  | cons s rest ih =>
      rw [List.flatMap_cons, ← ih]
      cases rest with
      | nil => simp
      | cons t more =>
          rw [List.map_cons, String.intercalate_cons_of_ne_nil (by simp)]
          simp

theorem segmentsText_append (xs ys : List String) :
    segmentsText (xs ++ ys) = segmentsText xs ++ segmentsText ys := by
  apply String.toList_injective
  rw [String.toList_append, toList_segmentsText, toList_segmentsText, toList_segmentsText,
    List.flatMap_append]

/-- How many bytes the text of segments stands for. -/
def size (list : List String) : Nat := (decodePercent (segmentsText list).toList).length

theorem size_singleton (s : String) : size [s] = 1 + (decodePercent s.toList).length := by
  unfold size
  rw [toList_segmentsText, List.flatMap_singleton, decodePercent_cons_of_ne (by decide),
    List.length_append]
  rfl

theorem size_append (xs ys : List String) : size (xs ++ ys) = size xs + size ys := by
  unfold size
  rw [segmentsText_append, String.toList_append, ← List.length_append]
  cases ys with
  | nil => rw [toList_segmentsText []]; simp
  | cons s rest =>
      rw [toList_segmentsText (s :: rest), List.flatMap_cons, List.cons_append,
        decodePercent_append_slash]

theorem size_dropLast_le (path : List String) : size path.dropLast ≤ size path := by
  rcases List.eq_nil_or_concat path with rfl | ⟨init, s, rfl⟩
  · exact Nat.le_refl _
  · rw [List.concat_eq_append, List.dropLast_concat, size_append]
    exact Nat.le_add_right _ _

/-! ## Splitting -/

theorem splitAt_eq_splitOn (c : Char) (cs : List Char) : splitAt c cs = cs.splitOn c := by
  induction cs with
  | nil => rfl
  | cons d rest ih =>
      rw [splitAt, List.splitOn_cons_eq_if_modifyHead, ih]
      by_cases hd : d = c
      · simp [hd]
      · have hne := List.splitOn_ne_nil c rest
        simp only [hd, if_false, beq_iff_eq]
        cases hparts : rest.splitOn c with
        | nil => exact absurd hparts hne
        | cons part parts => rfl

theorem flatMap_splitAt (c : Char) (cs : List Char) :
    (splitAt c cs).flatMap (c :: ·) = c :: cs := by
  induction cs with
  | nil => rfl
  | cons d rest ih =>
      rw [splitAt]
      split
      · rename_i hd
        rw [List.flatMap_cons, ih, hd]
        rfl
      · cases hparts : splitAt c rest with
        | nil =>
            rw [hparts] at ih
            cases ih
        | cons part parts =>
            rw [hparts, List.flatMap_cons] at ih
            rw [List.flatMap_cons, List.cons_append, List.cons_append]
            exact congrArg (c :: d :: ·) (List.cons.inj ih).2

theorem infix_of_mem_splitAt {c : Char} {cs part : List Char} (h : part ∈ splitAt c cs) :
    c :: part <:+: c :: cs := by
  rw [← flatMap_splitAt c cs, List.flatMap_def]
  exact List.infix_of_mem_flatten (List.mem_map_of_mem h)

theorem not_mem_of_mem_splitAt {c : Char} {cs part : List Char} (h : part ∈ splitAt c cs) :
    c ∉ part := by
  induction cs generalizing part with
  | nil =>
      rw [List.mem_singleton.mp h]
      exact List.not_mem_nil
  | cons d rest ih =>
      unfold splitAt at h
      split at h
      · rcases List.mem_cons.mp h with rfl | h
        · exact List.not_mem_nil
        · exact ih h
      · rename_i hd
        cases hparts : splitAt c rest with
        | nil =>
            rw [hparts] at h
            rw [List.mem_singleton.mp h, List.mem_singleton]
            exact Ne.symm hd
        | cons first parts =>
            rw [hparts] at h ih
            rcases List.mem_cons.mp h with rfl | h
            · rw [List.mem_cons, not_or]
              exact ⟨Ne.symm hd, ih List.mem_cons_self⟩
            · exact ih (List.mem_cons_of_mem first h)

theorem hasEscape_append_right (xs : List Char) {ys : List Char} (h : hasEscape ys = true) :
    hasEscape (xs ++ ys) = true := by
  induction xs with
  | nil => exact h
  | cons c xs ih => rw [List.cons_append, hasEscape, ih, Bool.or_true]

theorem hasEscape_append_left {xs : List Char} (h : hasEscape xs = true) (ys : List Char) :
    hasEscape (xs ++ ys) = true := by
  induction xs with
  | nil => cases h
  | cons c xs ih =>
      unfold hasEscape at h
      rw [List.cons_append, hasEscape]
      rcases Bool.or_eq_true_iff.mp h with hhead | hrest
      · rcases xs with _ | ⟨a, _ | ⟨b, rest⟩⟩
        · simp [startsByte] at hhead
        · simp [startsByte] at hhead
        · simp only [List.cons_append, startsByte] at hhead ⊢
          rw [hhead, Bool.true_or]
      · rw [ih hrest, Bool.or_true]

theorem not_hasEscape_of_mem_splitAt {cs part : List Char} (hcs : hasEscape cs = false)
    (h : part ∈ splitAt '/' cs) : hasEscape part = false := by
  by_contra hpart
  obtain ⟨before, after, hinfix⟩ := infix_of_mem_splitAt h
  have hcons : hasEscape ('/' :: cs) = true := by
    rw [← hinfix]
    refine hasEscape_append_left (hasEscape_append_right before ?_) after
    rw [hasEscape_cons_of_ne (by decide)]
    simpa using hpart
  rw [hasEscape_cons_of_ne (by decide), hcs] at hcons
  cases hcons

/-! ## Dots -/

/-- A segment that moves within the path. -/
def isDots (s : String) : Bool := isSingleDot s || isDoubleDot s

theorem isSingleDot_of_isDots {s : String} (h : isDots s = true) (hdouble : isDoubleDot s = false) :
    isSingleDot s = true := by
  unfold isDots at h
  rwa [hdouble, Bool.or_false] at h

theorem eq_or_of_toLower_eq {c d : Char} (h : c.toLower = d) :
    c = d ∨ 65 ≤ c.toNat ∧ c.toNat + 32 = d.toNat := by
  unfold Char.toLower at h
  split at h
  · rename_i hupper
    simp only [ge_iff_le, UInt32.le_iff_toNat_le] at hupper
    obtain ⟨hlow, hhigh⟩ := hupper
    have hlow' : 65 ≤ c.val.toNat := hlow
    have hhigh' : c.val.toNat ≤ 90 := hhigh
    subst h
    refine .inr ⟨hlow', ?_⟩
    change c.val.toNat + 32 = (c.val + ('a'.val - 'A'.val)).toNat
    have hshift : ('a'.val - 'A'.val).toNat = 32 := rfl
    rw [UInt32.toNat_add, hshift]
    omega
  · exact .inl h

theorem eq_of_toLower_eq {c d : Char} (h : c.toLower = d) (hd : d.toNat < 97) : c = d := by
  rcases eq_or_of_toLower_eq h with h | ⟨hlow, hshift⟩
  · exact h
  · omega

theorem decodePercent_of_dot {cs lower : List Char} (h : cs.map Char.toLower = '.' :: lower) :
    ∃ rest, rest.map Char.toLower = lower ∧ decodePercent cs = 46 :: decodePercent rest := by
  obtain ⟨c, rest, rfl, hc, hrest⟩ := List.map_eq_cons_iff.mp h
  obtain rfl := eq_of_toLower_eq hc (by decide)
  exact ⟨rest, hrest, rfl⟩

theorem decodePercent_of_encodedDot {cs lower : List Char}
    (h : cs.map Char.toLower = '%' :: '2' :: 'e' :: lower) :
    ∃ rest, rest.map Char.toLower = lower ∧ decodePercent cs = 46 :: decodePercent rest := by
  obtain ⟨sign, _, rfl, hsign, h⟩ := List.map_eq_cons_iff.mp h
  obtain ⟨two, _, rfl, htwo, h⟩ := List.map_eq_cons_iff.mp h
  obtain ⟨e, rest, rfl, he, hrest⟩ := List.map_eq_cons_iff.mp h
  obtain rfl := eq_of_toLower_eq hsign (by decide)
  obtain rfl := eq_of_toLower_eq htwo (by decide)
  have hdigit : hexDigit? e = some 14 := by
    rcases eq_or_of_toLower_eq he with rfl | ⟨-, hshift⟩
    · rfl
    · have hnat : e.toNat = 69 := by
        change e.toNat + 32 = 101 at hshift
        omega
      rw [← Char.ofNat_toNat e, hnat]
      rfl
  have htwo : hexDigit? '2' = some 2 := rfl
  exact ⟨rest, hrest, decodePercent_percent_of_digits htwo hdigit rest⟩

theorem toList_of_toLower_eq {s t : String} (h : s.toLower = t) :
    s.toList.map Char.toLower = t.toList := by
  rw [← h]
  exact (String.toList_map).symm

/-- However its dots are written, a segment that moves stands for nothing but dots. -/
theorem decodePercent_of_isDots {s : String} (h : isDots s = true) :
    decodePercent s.toList = bytes ['.'] ∨ decodePercent s.toList = bytes ['.', '.'] := by
  have hnil {cs : List Char} (hcs : cs.map Char.toLower = []) : cs = [] :=
    List.map_eq_nil_iff.mp hcs
  rcases Bool.or_eq_true_iff.mp h with hsingle | hdouble
  · left
    unfold isSingleDot at hsingle
    rcases Bool.or_eq_true_iff.mp hsingle with hdot | hencoded
    · rw [of_decide_eq_true hdot]
      rfl
    · obtain ⟨rest, hrest, hdecode⟩ :=
        decodePercent_of_encodedDot (toList_of_toLower_eq (of_decide_eq_true hencoded))
      rw [hdecode, hnil hrest]
      rfl
  · right
    unfold isDoubleDot at hdouble
    simp only [Bool.or_eq_true, decide_eq_true_eq, List.mem_cons, List.not_mem_nil,
      or_false] at hdouble
    rcases hdouble with hdots | hdots | hdots | hdots
    · rw [hdots]
      rfl
    · obtain ⟨rest, hrest, hdecode⟩ := decodePercent_of_dot (toList_of_toLower_eq hdots)
      obtain ⟨rest', hrest', hdecode'⟩ := decodePercent_of_encodedDot hrest
      rw [hdecode, hdecode', hnil hrest']
      rfl
    · obtain ⟨rest, hrest, hdecode⟩ := decodePercent_of_encodedDot (toList_of_toLower_eq hdots)
      obtain ⟨rest', hrest', hdecode'⟩ := decodePercent_of_dot hrest
      rw [hdecode, hdecode', hnil hrest']
      rfl
    · obtain ⟨rest, hrest, hdecode⟩ := decodePercent_of_encodedDot (toList_of_toLower_eq hdots)
      obtain ⟨rest', hrest', hdecode'⟩ := decodePercent_of_encodedDot hrest
      rw [hdecode, hdecode', hnil hrest']
      rfl

/-! ## Written segments -/

theorem withoutBreaks_eq_self {cs : List Char} (h : ∀ c ∈ cs, isBreak c = false) :
    withoutBreaks cs = cs :=
  List.filter_eq_self.mpr fun c hc => by rw [h c hc]; rfl

theorem toList_segmentText {part : List Char} (h : ∀ c ∈ part, isBreak c = false) :
    (segmentText part).toList = encodeChars pathSet part := by
  unfold segmentText
  rw [withoutBreaks_eq_self h, String.toList_ofList]

theorem not_isBreak_of_mem_splitAt {cs part : List Char} (h : ∀ c ∈ cs, isBreak c = false)
    (hpart : part ∈ splitAt '/' cs) : ∀ c ∈ part, isBreak c = false := by
  intro c hc
  have hmem := (infix_of_mem_splitAt hpart).subset (List.mem_cons_of_mem _ hc)
  rcases List.mem_cons.mp hmem with rfl | hmem
  · rfl
  · exact h c hmem

theorem tab_not_mem_of_mem_splitAt {cs part : List Char} (h : ∀ c ∈ cs, isBreak c = false)
    (hpart : part ∈ splitAt '/' cs) : '\t' ∉ part := fun hmem =>
  absurd (not_isBreak_of_mem_splitAt h hpart _ hmem) (by decide)

theorem toList_segmentsText_splitAt {cs : List Char} (h : ∀ c ∈ cs, isBreak c = false) :
    (segmentsText ((splitAt '/' cs).map segmentText)).toList = '/' :: encodeChars pathSet cs := by
  have hpart : ∀ part ∈ splitAt '/' cs,
      '/' :: (segmentText part).toList = encodeChars pathSet ('/' :: part) := by
    intro part hpart
    rw [toList_segmentText (not_isBreak_of_mem_splitAt h hpart)]
    rfl
  calc (segmentsText ((splitAt '/' cs).map segmentText)).toList
      = (splitAt '/' cs).flatMap fun part => '/' :: (segmentText part).toList := by
        rw [toList_segmentsText, List.flatMap_map]
    _ = (splitAt '/' cs).flatMap fun part => encodeChars pathSet ('/' :: part) :=
        List.flatMap_congr hpart
    _ = encodeChars pathSet ((splitAt '/' cs).flatMap ('/' :: ·)) := by
        unfold encodeChars
        rw [List.flatMap_assoc]
    _ = encodeChars pathSet ('/' :: cs) := by rw [flatMap_splitAt]
    _ = '/' :: encodeChars pathSet cs := rfl

/-- Where nothing looks encoded, one dot or two move within the path, and nothing else does. -/
theorem isDots_segmentText_iff {part : List Char} (hbreaks : ∀ c ∈ part, isBreak c = false)
    (hescape : hasEscape part = false) :
    isDots (segmentText part) = true ↔ part = ['.'] ∨ part = ['.', '.'] := by
  constructor
  · intro h
    have hdecode : decodePercent (segmentText part).toList = bytes part := by
      rw [toList_segmentText hbreaks, decodePercent_encodeChars leavesEscapes_pathSet,
        decodePercent_of_not_hasEscape hescape]
    rcases decodePercent_of_isDots h with hdots | hdots
    · exact .inl (bytes_injective (hdecode.symm.trans hdots))
    · exact .inr (bytes_injective (hdecode.symm.trans hdots))
  · rintro (rfl | rfl) <;> decide +kernel

/-! ## Adding segments -/

section

variable {scheme : String} (hfile : scheme ≠ "file")
include hfile

theorem addSegment_of_not_isDots {s : String} (hs : isDots s = false) (last : Bool)
    (path : List String) : addSegment scheme last path s = path ++ [s] := by
  obtain ⟨hsingle, hdouble⟩ := Bool.or_eq_false_iff.mp hs
  unfold addSegment
  simp [hsingle, hdouble, hfile]

omit hfile in
theorem size_addSegment_lt {s : String} (hs : isDots s = true) (last : Bool)
    (path : List String) : size (addSegment scheme last path s) < size path + size [s] := by
  have hopen (p : List String) : size (if last then p ++ [""] else p) ≤ size p + 1 := by
    have hempty : size [""] = 1 := by decide
    split
    · exact Nat.le_of_eq (by rw [size_append, hempty])
    · exact Nat.le_succ _
  have hmoved : size (addSegment scheme last path s) ≤ size path + 1 := by
    unfold addSegment
    cases hdouble : isDoubleDot s with
    | true =>
        refine Nat.le_trans (hopen _) (Nat.add_le_add_right ?_ 1)
        split
        · exact Nat.le_refl _
        · exact size_dropLast_le path
    | false =>
        rw [isSingleDot_of_isDots hs hdouble]
        exact hopen path
  have hsize : 2 ≤ size [s] := by
    rw [size_singleton]
    rcases decodePercent_of_isDots hs with h | h <;> rw [h] <;> decide
  omega

omit hfile in
theorem addWritten_of_not_mem {cs : List Char} (htab : '\t' ∉ cs) (last : Bool)
    (path : List String) :
    addWritten scheme last path cs = addSegment scheme last path (segmentText cs) := by
  unfold addWritten
  split
  · simp at htab
  · rfl

omit hfile in
theorem addSegments_cons (path : List String) (cs : List Char) (rest : List (List Char)) :
    addSegments scheme path (cs :: rest) =
      addSegments scheme (addWritten scheme rest.isEmpty path cs) rest := by
  cases rest <;> rfl

theorem addSegments_of_not_isDots {segments : List (List Char)}
    (htab : ∀ cs ∈ segments, '\t' ∉ cs)
    (hdots : ∀ cs ∈ segments, isDots (segmentText cs) = false) (path : List String) :
    addSegments scheme path segments = path ++ segments.map segmentText := by
  induction segments generalizing path with
  | nil => exact (List.append_nil path).symm
  | cons cs rest ih =>
      obtain ⟨htab, htabs⟩ := List.forall_mem_cons.mp htab
      obtain ⟨hdots, hrest⟩ := List.forall_mem_cons.mp hdots
      rw [addSegments_cons, addWritten_of_not_mem htab, addSegment_of_not_isDots hfile hdots,
        ih htabs hrest, List.map_cons, List.append_assoc, List.singleton_append]

/-- Segments come to what they are at most, and to less if one of them moves. -/
theorem size_addSegments {segments : List (List Char)} (htab : ∀ cs ∈ segments, '\t' ∉ cs)
    (path : List String) :
    let written := size path + size (segments.map segmentText)
    size (addSegments scheme path segments) ≤ written ∧
      ((∃ cs ∈ segments, isDots (segmentText cs) = true) →
        size (addSegments scheme path segments) < written) := by
  induction segments generalizing path with
  | nil => exact ⟨Nat.le_refl _, fun ⟨_, hmem, _⟩ => absurd hmem List.not_mem_nil⟩
  | cons cs rest ih =>
      obtain ⟨htab, htabs⟩ := List.forall_mem_cons.mp htab
      have hsplit : size ((cs :: rest).map segmentText) =
          size [segmentText cs] + size (rest.map segmentText) := by
        rw [List.map_cons, ← List.singleton_append, size_append]
      rw [addSegments_cons, addWritten_of_not_mem htab]
      obtain ⟨hle, hlt⟩ := ih htabs (addSegment scheme rest.isEmpty path (segmentText cs))
      cases hdots : isDots (segmentText cs) with
      | true =>
          have hfirst := @size_addSegment_lt scheme _ hdots rest.isEmpty path
          simp only [hsplit]
          exact ⟨by omega, fun _ => by omega⟩
      | false =>
          rw [addSegment_of_not_isDots hfile hdots] at hle hlt ⊢
          rw [size_append] at hle hlt
          simp only [hsplit]
          refine ⟨by omega, ?_⟩
          rintro ⟨other, hmem, hother⟩
          rcases List.mem_cons.mp hmem with rfl | hmem
          · rw [hdots] at hother
            cases hother
          · have hlt := hlt ⟨other, hmem, hother⟩
            omega

end

end Rollout.Url
