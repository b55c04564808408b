import Rollout.Proofs.Url.Literal
/-!
# Paths of absolute URLs

The path of an absolute URL is what is written behind its authority, read segment by segment. The
last segment that is written is the last of the path, unless it moves within the path: then the path
ends with a slash, as it does if nothing is written behind a slash.
-/

namespace Rollout.Url

open Text (dropEndWhile)

/-- What is written behind the authority of an absolute URL and a slash, as far as the path goes. -/
def writtenPath (s : String) : List Char :=
  (((absoluteParts s).front.dropWhile (isSlash true)).dropWhile (!isSlash true ·)).drop 1

/-- The last segment of a path, as its text has it. -/
def lastWritten (s : String) : List Char := (splitSegments true (writtenPath s)).getLastD []

/-- What the path of an absolute URL has behind its last slash. -/
def lastSegment (s : String) : String :=
  let written := segmentText (lastWritten s)
  if isDots written then "" else written

/-! ## Where the authority ends -/

theorem hostPart_suffix (inside : Bool) (cs : List Char) : (hostPart inside cs).2 <:+ cs := by
  induction cs generalizing inside with
  | nil => exact List.suffix_refl []
  | cons c cs ih =>
      unfold hostPart
      split
      · exact List.suffix_refl _
      · exact (ih _).trans (List.suffix_cons c cs)

theorem place_sublist (cs : List Char) : ((splitLastAt cs).getD ([], cs)).2.Sublist cs := by
  unfold splitLastAt
  simp only
  split
  · exact List.Sublist.refl cs
  · have h := (List.takeWhile_sublist (· != '@') (l := cs.reverse)).reverse
    rwa [List.reverse_reverse] at h

theorem rest_of_readPort {scheme : String} {cs : List Char} {port : Option UInt16 × List Char}
    (h : readPort scheme cs = .ok port) (hcs : '\\' ∉ cs) : port.2 = [] := by
  unfold readPort at h
  simp only at h
  split at h
  · cases h
  · rename_i hfits
    simp only [Bool.or_eq_true, not_or, Bool.not_eq_true] at hfits
    cases h
    cases hrest : cs.drop (cs.takeWhile Char.isDigit).length with
    | nil => rfl
    | cons c rest =>
        have hc : c = '\\' := by
          rw [hrest] at hfits
          simpa using hfits.2
        have hmem : c ∈ cs := List.mem_of_mem_drop (hrest ▸ List.mem_cons_self)
        exact absurd (hc ▸ hmem) hcs

theorem rest_of_readAuthority {scheme : String} (hknown : isSpecial scheme = true) {alone : Bool}
    {cs : List Char} {read : Authority × List Char}
    (h : readAuthority scheme alone cs = .ok read) :
    read.2 = cs.dropWhile (!isSlash true ·) := by
  have hbackslash : '\\' ∉ (hostPart false ((splitLastAt (cs.takeWhile (!isSlash true ·))).getD
      ([], cs.takeWhile (!isSlash true ·))).2).2.drop 1 := by
    intro hmem
    have hplace := (hostPart_suffix _ _).subset (List.mem_of_mem_drop hmem)
    exact absurd (List.mem_takeWhile_imp ((place_sublist _).subset hplace)) (by decide)
  unfold readAuthority at h
  simp only [hknown, if_true, bind, Except.bind] at h
  -- Five faults end the reading; what is left is the case without one.
  split at h
  · cases h
  split at h
  · cases h
  split at h
  · cases h
  split at h
  · cases h
  rename_i hport
  split at h
  · cases h
  cases h
  simp only
  rw [rest_of_readPort hport hbackslash, List.nil_append, drop_length_takeWhile]

/-! ## The path -/

theorem addSegments_nil {scheme : String} (hfile : scheme ≠ "file") :
    addSegments scheme [] (splitSegments true []) = [""] :=
  addSegment_of_not_isDots hfile (by decide +kernel) true []

theorem isSlash_of_dropWhile {cs rest : List Char} {c : Char}
    (h : cs.dropWhile (!isSlash true ·) = c :: rest) : isSlash true c = true := by
  have hhead := List.head?_dropWhile_not (!isSlash true ·) cs
  rw [h] at hhead
  simpa using hhead

/-- The path of an absolute URL of a known scheme that is no file is the one that is written. -/
theorem path_of_parse {s : String} {u : Url} (h : parse s = .ok u)
    (hknown : isSpecial u.scheme = true) (hfile : u.scheme ≠ "file") :
    u.authority.isSome = true ∧
      u.path = .segments (addSegments u.scheme [] (splitSegments true (writtenPath s))) := by
  obtain ⟨read, hread, hu⟩ :=
    exists_of_readAfterSlashes (readAfterSlashes_of_parse h hknown hfile)
  have hrest := rest_of_readAuthority hknown hread
  have hauthority : u.authority = some read.1 := congrArg Url.authority hu
  have hpath := congrArg Url.path hu
  refine ⟨by rw [hauthority, Option.isSome_some], ?_⟩
  rw [hpath]
  simp only [assemble, hknown, Path.segments.injEq, hrest]
  unfold writtenPath
  cases hafter : ((absoluteParts s).front.dropWhile (isSlash true)).dropWhile
    (!isSlash true ·) with
  | nil => exact (addSegments_nil hfile).symm
  | cons c rest =>
      simp only [isSlash_of_dropWhile hafter, if_true, List.drop_one, List.tail_cons]

/-! ## The last segment -/

theorem exists_addSegments_concat (scheme : String) (parts : List (List Char)) (part : List Char)
    (path : List String) : ∃ dirs,
      addSegments scheme path (parts ++ [part]) = addWritten scheme true dirs part := by
  induction parts generalizing path with
  | nil => exact ⟨path, rfl⟩
  | cons first parts ih =>
      rw [List.cons_append, addSegments_cons]
      exact ih _

theorem exists_addSegment_last {scheme : String} (hfile : scheme ≠ "file") (dirs : List String)
    (s : String) : ∃ dirs',
      addSegment scheme true dirs s = dirs' ++ [if isDots s then "" else s] := by
  cases hdots : isDots s with
  | false => exact ⟨dirs, addSegment_of_not_isDots hfile hdots true dirs⟩
  | true =>
      unfold addSegment
      cases hdouble : isDoubleDot s with
      | true => exact ⟨_, rfl⟩
      | false =>
          rw [isSingleDot_of_isDots hdots hdouble]
          exact ⟨_, rfl⟩

theorem writtenPath_suffix (s : String) :
    writtenPath s <:+ (absoluteParts s).front :=
  (List.drop_suffix _ _).trans <| (List.dropWhile_suffix _).trans (List.dropWhile_suffix _)

theorem not_isBreak_writtenPath (s : String) :
    ∀ c ∈ slashed (writtenPath s), isBreak c = false :=
  not_isBreak_slashed fun _ hc => (of_mem_front ((writtenPath_suffix s).subset hc)).2.2

theorem exists_splitSegments (s : String) :
    ∃ parts, splitAt '/' (slashed (writtenPath s)) = parts ++ [lastWritten s] := by
  unfold lastWritten
  rw [splitSegments_true]
  rcases List.eq_nil_or_concat (splitAt '/' (slashed (writtenPath s)))
    with hnil | ⟨parts, part, h⟩
  · rw [splitAt_eq_splitOn] at hnil
    exact absurd hnil (List.splitOn_ne_nil _ _)
  · rw [h, List.concat_eq_append, List.getLastD_concat]
    exact ⟨parts, rfl⟩

theorem lastWritten_mem (s : String) : lastWritten s ∈ splitAt '/' (slashed (writtenPath s)) := by
  obtain ⟨parts, hparts⟩ := exists_splitSegments s
  rw [hparts]
  exact List.mem_append_right parts (List.mem_singleton_self _)

/-- The path of an absolute URL of a web server ends with what is written at its end, or with a
slash. -/
theorem served_of_parse {s : String} {u : Url} (h : parse s = .ok u)
    (hscheme : u.scheme = "http" ∨ u.scheme = "https") :
    ∃ dirs, Served u (dirs ++ [lastSegment s]) := by
  have hknown : isSpecial u.scheme = true := by
    rcases hscheme with h | h <;> rw [h] <;> rfl
  have hfile : u.scheme ≠ "file" := by
    rcases hscheme with h | h <;> rw [h] <;> decide
  obtain ⟨hauthority, hpath⟩ := path_of_parse h hknown hfile
  obtain ⟨parts, hparts⟩ := exists_splitSegments s
  obtain ⟨dirs, hdirs⟩ := exists_addSegments_concat u.scheme parts (lastWritten s) []
  have htab := tab_not_mem_of_mem_splitAt (not_isBreak_writtenPath s) (lastWritten_mem s)
  obtain ⟨dirs', hlast⟩ := exists_addSegment_last hfile dirs (segmentText (lastWritten s))
  refine ⟨dirs', hscheme, hauthority, ?_⟩
  rw [hpath, splitSegments_true, hparts, hdirs, addWritten_of_not_mem htab, hlast]
  rfl

theorem slash_not_mem_encodeChars (set : EncodeSet) {cs : List Char} (h : '/' ∉ cs) :
    '/' ∉ encodeChars set cs := by
  have hdigit : ∀ n < 16, upperHexDigit n ≠ '/' := by decide
  intro hmem
  obtain ⟨c, hc, hmem⟩ := List.mem_flatMap.mp hmem
  unfold encodeChar at hmem
  split at hmem
  · obtain ⟨b, -, hb⟩ := List.mem_flatMap.mp hmem
    have hbyte : b.toNat < 256 := b.toNat_lt
    have hhigh := hdigit (b.toNat / 16) (by omega)
    have hlow := hdigit (b.toNat % 16) (by omega)
    simp [encodeByte, hhigh.symm, hlow.symm] at hb
  · exact h (List.mem_singleton.mp hmem ▸ hc)

theorem slash_not_mem_lastSegment (s : String) : '/' ∉ (lastSegment s).toList := by
  have hmem := lastWritten_mem s
  have hbreaks := not_isBreak_of_mem_splitAt (not_isBreak_writtenPath s) hmem
  unfold lastSegment
  simp only
  split
  · exact List.not_mem_nil
  · rw [toList_segmentText hbreaks]
    exact slash_not_mem_encodeChars pathSet (not_mem_of_mem_splitAt hmem)

/-! ## Closing slashes -/

/-- If it is not empty, the text ends with a slash. -/
def Closes (cs : List Char) : Prop := cs = [] ∨ ∃ front, cs = front ++ ['/']

theorem Closes.of_suffix {xs ys : List Char} (h : Closes xs) (hsuffix : ys <:+ xs) : Closes ys := by
  rcases List.eq_nil_or_concat ys with rfl | ⟨front, c, rfl⟩
  · exact .inl rfl
  · obtain ⟨before, rfl⟩ := hsuffix
    rcases h with h | ⟨whole, h⟩
    · simp at h
    · rw [List.concat_eq_append, ← List.append_assoc] at h
      obtain ⟨-, hc⟩ := List.append_inj' h rfl
      exact .inr ⟨front, by rw [List.concat_eq_append, hc]⟩

theorem Closes.withoutBreaks {cs : List Char} (h : Closes cs) : Closes (withoutBreaks cs) := by
  rcases h with rfl | ⟨front, rfl⟩
  · exact .inl rfl
  · refine .inr ⟨Url.withoutBreaks front, ?_⟩
    unfold Url.withoutBreaks
    rw [List.filter_append]
    rfl

/-- What is read of a text that is closed with a slash is the end of it. -/
theorem trimmed_suffix_of_closed (t : String) : trimmed (t ++ "/") <:+ t.toList ++ ['/'] := by
  have hsuffix := List.dropWhile_suffix isOuter (l := t.toList ++ ['/'])
  have hkept : dropEndWhile isOuter ((t.toList ++ ['/']).dropWhile isOuter) =
      (t.toList ++ ['/']).dropWhile isOuter := by
    refine dropEndWhile_isOuter_eq_self_iff.mpr fun c hc => ?_
    rcases Closes.of_suffix (.inr ⟨t.toList, rfl⟩) hsuffix with hnil | ⟨front, hfront⟩
    · simp [hnil] at hc
    · rw [hfront, List.getLast?_concat] at hc
      cases hc
      decide
  unfold trimmed
  simp only [String.toList_append]
  change dropEndWhile isOuter ((t.toList ++ ['/']).dropWhile isOuter) <:+ _
  rwa [hkept]

/-- Nothing is written behind the slash that a text without a query and a fragment is closed
with. -/
theorem lastSegment_of_unmarked {t : String} (h : ∀ c ∈ t.toList, c ≠ '?' ∧ c ≠ '#') :
    lastSegment (t ++ "/") = "" := by
  have hsuffix : ((trimmed (t ++ "/")).dropWhile (· != ':')).drop 1 <:+ t.toList ++ ['/'] :=
    (List.drop_suffix _ _).trans <| (List.dropWhile_suffix _).trans (trimmed_suffix_of_closed t)
  have hunmarked : ∀ c ∈ t.toList ++ ['/'], c ≠ '?' ∧ c ≠ '#' :=
    List.forall_mem_append.mpr ⟨h, fun c hc => by rw [List.mem_singleton.mp hc]; decide⟩
  have hclosed : Closes (writtenPath (t ++ "/")) := by
    refine Closes.of_suffix ?_ (writtenPath_suffix _)
    unfold absoluteParts
    rw [parts_of_unmarked fun c hc => hunmarked c (hsuffix.subset hc)]
    exact (Closes.of_suffix (.inr ⟨t.toList, rfl⟩) hsuffix).withoutBreaks
  have hwritten : lastWritten (t ++ "/") = [] := by
    unfold lastWritten
    rw [splitSegments_true]
    rcases hclosed with hnil | ⟨front, hfront⟩
    · rw [hnil]
      rfl
    · rw [hfront]
      unfold slashed
      rw [List.map_append]
      change (splitAt '/' (front.map _ ++ ['/'])).getLastD [] = []
      rw [splitAt_eq_splitOn, List.splitOn_append_cons_self]
      exact List.getLastD_concat
  unfold lastSegment
  rw [hwritten]
  decide +kernel

end Rollout.Url
