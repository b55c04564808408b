import Mathlib.Data.List.Flatten
import Rollout.Proofs.Url.Descent
import Rollout.Proofs.Url.Segments
/-!
# Texts that are read literally

A text that is put behind some words and joined to a base may come to something else: it may end
early, lose characters, or move within the path. It is read literally exactly if it has none of the
marks by which this happens, and then the path stands for it.
-/

namespace Rollout.Url

open Text (dropEndWhile)

/-- Nothing in the text is read as anything but itself when it ends a path. -/
structure Literal (cs : List Char) : Prop where
  /-- No query and no fragment begins, and nothing is passed over or read as a slash. -/
  unmarked : ∀ c ∈ cs, c ≠ '?' ∧ c ≠ '#' ∧ c ≠ '\\' ∧ isBreak c = false
  /-- There is no blank at the end. -/
  ended : ∀ c, cs.getLast? = some c → 0x20 < c.toNat
  decoded : hasEscape cs = false
  /-- Between slashes there is more than one dot or two. -/
  still : ∀ part ∈ splitAt '/' cs, part ≠ ['.'] ∧ part ≠ ['.', '.']

/-- Whether a text is read literally. -/
def isLiteral (cs : List Char) : Bool :=
  cs.all (fun c => !(c == '?' || c == '#' || c == '\\' || isBreak c))
    && cs.getLast?.all (fun c => 0x20 < c.toNat) && !hasEscape cs
    && (splitAt '/' cs).all fun part => !(part == ['.'] || part == ['.', '.'])

theorem literal_iff {cs : List Char} : Literal cs ↔ isLiteral cs = true := by
  have hunmarked : cs.all (fun c => !(c == '?' || c == '#' || c == '\\' || isBreak c)) = true ↔
      ∀ c ∈ cs, c ≠ '?' ∧ c ≠ '#' ∧ c ≠ '\\' ∧ isBreak c = false := by
    simp [and_assoc]
  have hended : cs.getLast?.all (fun c => 0x20 < c.toNat) = true ↔
      ∀ c, cs.getLast? = some c → 0x20 < c.toNat := by
    cases cs.getLast? <;> simp
  have hstill : (splitAt '/' cs).all (fun part => !(part == ['.'] || part == ['.', '.'])) = true ↔
      ∀ part ∈ splitAt '/' cs, part ≠ ['.'] ∧ part ≠ ['.', '.'] := by
    simp
  unfold isLiteral
  simp only [Bool.and_eq_true, hunmarked, hended, hstill, Bool.not_eq_true', and_assoc]
  exact ⟨fun h => ⟨h.unmarked, h.ended, h.decoded, h.still⟩,
    fun ⟨hunmarked, hended, hdecoded, hstill⟩ => ⟨hunmarked, hended, hdecoded, hstill⟩⟩

instance : DecidablePred Literal := fun _ => decidable_of_iff' _ literal_iff

/-- A character that is at the end of a text, as far as it is no blank. -/
def isOuter (c : Char) : Bool := c.toNat ≤ 0x20

/-- What is left of the end of a text for the path. -/
def kept (cs : List Char) : List Char := (Parts.of (dropEndWhile isOuter cs)).front

/-- Backslashes as slashes. -/
def slashed (cs : List Char) : List Char := cs.map fun c => if c = '\\' then '/' else c

theorem splitSegments_true (cs : List Char) :
    splitSegments true cs = splitAt '/' (slashed cs) := rfl

/-! ## What is kept -/

theorem dropEndWhile_sublist (p : Char → Bool) (cs : List Char) :
    (dropEndWhile p cs).Sublist cs := by
  unfold dropEndWhile
  have h := (List.dropWhile_sublist p (l := cs.reverse)).reverse
  rwa [List.reverse_reverse] at h

theorem kept_sublist (cs : List Char) : (kept cs).Sublist cs := by
  unfold kept Parts.of
  exact (List.takeWhile_sublist _).trans <| (List.takeWhile_sublist _).trans <|
    List.filter_sublist.trans (dropEndWhile_sublist isOuter cs)

theorem of_mem_front {cs : List Char} {c : Char} (h : c ∈ (Parts.of cs).front) :
    c ≠ '?' ∧ c ≠ '#' ∧ isBreak c = false := by
  unfold Parts.of at h
  simp only at h
  have hquery := List.mem_takeWhile_imp h
  have hfront := (List.takeWhile_sublist _).subset h
  have hfragment := List.mem_takeWhile_imp hfront
  have hbreak := (List.mem_filter.mp ((List.takeWhile_sublist _).subset hfront)).2
  exact ⟨by simpa using hquery, by simpa using hfragment, by simpa using hbreak⟩

theorem dropEndWhile_eq_self_iff {p : Char → Bool} {cs : List Char} :
    dropEndWhile p cs = cs ↔ ∀ c, cs.getLast? = some c → p c = false := by
  unfold dropEndWhile
  rw [← List.head?_reverse, ← List.reverse_inj, List.reverse_reverse]
  cases cs.reverse with
  | nil => simp
  | cons c rest =>
      rw [List.dropWhile_cons]
      cases hp : p c with
      | true =>
          simp only [if_true, List.head?_cons, Option.some.injEq]
          constructor
          · intro h
            have hlength := (List.dropWhile_sublist p (l := rest)).length_le
            rw [h, List.length_cons] at hlength
            omega
          · intro h
            rw [h c rfl] at hp
            cases hp
      | false =>
          simp only [Bool.false_eq_true, if_false, List.head?_cons, Option.some.injEq]
          exact ⟨fun _ d hd => hd ▸ hp, fun _ => trivial⟩

theorem dropEndWhile_isOuter_eq_self_iff {cs : List Char} :
    dropEndWhile isOuter cs = cs ↔ ∀ c, cs.getLast? = some c → 0x20 < c.toNat := by
  rw [dropEndWhile_eq_self_iff]
  simp [isOuter]

theorem parts_of_unmarked {cs : List Char} (h : ∀ c ∈ cs, c ≠ '?' ∧ c ≠ '#') :
    Parts.of cs = ⟨withoutBreaks cs, none, none⟩ := by
  have hmem {c : Char} (hc : c ∈ withoutBreaks cs) : c ∈ cs := List.mem_of_mem_filter hc
  have hfragment : (withoutBreaks cs).takeWhile (· != '#') = withoutBreaks cs :=
    List.takeWhile_eq_self_iff.mpr fun c hc => by simpa using (h c (hmem hc)).2
  have hquery : (withoutBreaks cs).takeWhile (· != '?') = withoutBreaks cs :=
    List.takeWhile_eq_self_iff.mpr fun c hc => by simpa using (h c (hmem hc)).1
  unfold Parts.of
  simp only [hfragment, hquery, List.drop_length]

theorem kept_eq_self_iff {cs : List Char} : kept cs = cs ↔
    (∀ c ∈ cs, c ≠ '?' ∧ c ≠ '#' ∧ isBreak c = false) ∧
      ∀ c, cs.getLast? = some c → 0x20 < c.toNat := by
  rw [← dropEndWhile_isOuter_eq_self_iff]
  constructor
  · intro h
    refine ⟨fun c hc => of_mem_front (h.symm ▸ hc), ?_⟩
    have hsublist : (kept cs).Sublist (dropEndWhile isOuter cs) :=
      (List.takeWhile_sublist _).trans <| (List.takeWhile_sublist _).trans List.filter_sublist
    rw [h] at hsublist
    exact (dropEndWhile_sublist isOuter cs).antisymm hsublist
  · rintro ⟨hmarks, hend⟩
    unfold kept
    rw [hend, parts_of_unmarked fun c hc => ⟨(hmarks c hc).1, (hmarks c hc).2.1⟩]
    exact withoutBreaks_eq_self fun c hc => (hmarks c hc).2.2

/-! ## Bytes -/

theorem length_bytes_le {xs ys : List Char} (h : xs.Sublist ys) :
    (bytes xs).length ≤ (bytes ys).length :=
  (h.flatMap _).length_le

theorem eq_of_length_bytes_le {xs ys : List Char} (h : xs.Sublist ys)
    (hlength : (bytes ys).length ≤ (bytes xs).length) : xs = ys :=
  bytes_injective ((h.flatMap _).eq_of_length_le hlength)

theorem length_bytes_slashed (cs : List Char) :
    (bytes (slashed cs)).length = (bytes cs).length := by
  induction cs with
  | nil => rfl
  | cons c cs ih =>
      unfold slashed at ih ⊢
      rw [List.map_cons, bytes_cons, bytes_cons, List.length_append, List.length_append, ih]
      split
      · rename_i hc
        rw [hc]
        rfl
      · rfl

theorem slashed_eq_self_iff {cs : List Char} : slashed cs = cs ↔ '\\' ∉ cs := by
  constructor
  · intro h hmem
    rw [← h] at hmem
    obtain ⟨c, -, hc⟩ := List.mem_map.mp hmem
    split at hc <;> simp_all
  · intro h
    have hid : slashed cs = cs.map id :=
      List.map_congr_left fun c hc => if_neg fun heq : c = '\\' => h (heq ▸ hc)
    rw [hid, List.map_id]

theorem not_isBreak_slashed {cs : List Char} (h : ∀ c ∈ cs, isBreak c = false) :
    ∀ c ∈ slashed cs, isBreak c = false := by
  intro c hc
  obtain ⟨d, hd, rfl⟩ := List.mem_map.mp hc
  split
  · rfl
  · exact h d hd

/-! ## Words -/

/-- Words that are put before a text: they descend, and end with a slash. -/
structure Introduces (words : List Char) : Prop where
  descends : Descends words
  plain : words.all (fun c => isPlain c || c == '/') = true
  closed : words.getLast? = some '/'
  encoded : encodeChars pathSet words = words

namespace Introduces

variable {words : List Char} (h : Introduces words)
include h

theorem isPlain_or_slash {c : Char} (hc : c ∈ words) : isPlain c = true ∨ c = '/' := by
  have hplain := List.all_eq_true.mp h.plain c hc
  rwa [Bool.or_eq_true, beq_iff_eq] at hplain

theorem ne_of_mem {c d : Char} (hc : c ∈ words) (hd : isPlain d = false) (hslash : d ≠ '/') :
    c ≠ d := by
  rcases h.isPlain_or_slash hc with hplain | rfl
  · exact ne_of_isPlain hplain hd
  · exact Ne.symm hslash

theorem not_isBreak {c : Char} (hc : c ∈ words) : isBreak c = false := by
  rcases h.isPlain_or_slash hc with hplain | rfl
  · exact isBreak_of_isPlain hplain
  · rfl

theorem not_isOuter {c : Char} (hc : c ∈ words) : isOuter c = false := by
  rcases h.isPlain_or_slash hc with hplain | rfl
  · have hlt := lt_toNat_of_isPlain hplain
    simpa [isOuter] using hlt
  · rfl

theorem front_append (data : List Char) :
    (Parts.of (dropEndWhile isOuter (words ++ data))).front = words ++ kept data := by
  have hwords : dropEndWhile isOuter words = words :=
    dropEndWhile_eq_self_iff.mpr fun c hc => h.not_isOuter (List.mem_of_getLast? hc)
  have htrim : dropEndWhile isOuter (words ++ data) = words ++ dropEndWhile isOuter data := by
    unfold dropEndWhile at hwords ⊢
    rw [List.reverse_append, List.dropWhile_append]
    split
    · rename_i hnil
      rw [List.isEmpty_iff.mp hnil, hwords, List.reverse_nil, List.append_nil]
    · rw [List.reverse_append, List.reverse_reverse]
  have hbreaks : withoutBreaks words = words :=
    withoutBreaks_eq_self fun _ hc => h.not_isBreak hc
  have hfragment (c : Char) (hc : c ∈ words) : (c != '#') = true := by
    simpa using h.ne_of_mem hc (d := '#') rfl (by decide)
  have hquery (c : Char) (hc : c ∈ words) : (c != '?') = true := by
    simpa using h.ne_of_mem hc (d := '?') rfl (by decide)
  rw [htrim]
  unfold kept Parts.of
  simp only
  unfold withoutBreaks at hbreaks ⊢
  rw [List.filter_append, hbreaks, List.takeWhile_append_of_pos hfragment,
    List.takeWhile_append_of_pos hquery]

theorem slashed_append (cs : List Char) : slashed (words ++ cs) = words ++ slashed cs := by
  have hwords : slashed words = words :=
    slashed_eq_self_iff.mpr fun hmem => h.ne_of_mem hmem (d := '\\') rfl (by decide) rfl
  unfold slashed at hwords ⊢
  rw [List.map_append, hwords]

theorem decodePercent_append (cs : List Char) :
    decodePercent (words ++ cs) = bytes words ++ decodePercent cs :=
  decodePercent_append_of_not_mem (fun hmem => h.ne_of_mem hmem (d := '%') rfl (by decide) rfl) cs

theorem splitAt_append (cs : List Char) : ∃ parts : List (List Char),
    splitAt '/' (words ++ cs) = parts ++ splitAt '/' cs ∧
      ∀ part ∈ parts, ∀ c ∈ part, c ∈ words := by
  obtain ⟨front, hfront⟩ := List.getLast?_eq_some_iff.mp h.closed
  refine ⟨splitAt '/' front, ?_, fun part hpart c hc => ?_⟩
  · rw [hfront, List.append_assoc, List.singleton_append, splitAt_eq_splitOn,
      List.splitOn_append_cons_self, splitAt_eq_splitOn, splitAt_eq_splitOn]
  · have hmem := (infix_of_mem_splitAt hpart).subset (List.mem_cons_of_mem _ hc)
    rw [hfront]
    rcases List.mem_cons.mp hmem with rfl | hmem
    · exact List.mem_append_right _ (List.mem_singleton_self _)
    · exact List.mem_append_left _ hmem

theorem literal_append {cs : List Char} (hcs : Literal cs) : Literal (words ++ cs) where
  unmarked := List.forall_mem_append.mpr ⟨fun c hc =>
    ⟨h.ne_of_mem hc rfl (by decide), h.ne_of_mem hc rfl (by decide),
      h.ne_of_mem hc rfl (by decide), h.not_isBreak hc⟩, hcs.unmarked⟩
  ended c hc := by
    rw [List.getLast?_append] at hc
    cases hlast : cs.getLast? with
    | some d =>
        rw [hlast] at hc
        exact hcs.ended c (hlast.trans hc)
    | none =>
        rw [hlast, Option.none_or, h.closed] at hc
        cases hc
        decide
  decoded := by
    rw [hasEscape_append_of_not_mem fun hmem => h.ne_of_mem hmem (d := '%') rfl (by decide) rfl]
    exact hcs.decoded
  still part hpart := by
    obtain ⟨parts, hparts, hplain⟩ := h.splitAt_append cs
    rw [hparts] at hpart
    rcases List.mem_append.mp hpart with hpart | hpart
    · have hdot : '.' ∉ part := fun hmem =>
        h.ne_of_mem (hplain part hpart _ hmem) (d := '.') rfl (by decide) rfl
      exact ⟨fun heq => hdot (by simp [heq]), fun heq => hdot (by simp [heq])⟩
    · exact hcs.still part hpart

end Introduces

/-! ## Bases -/

/-- A URL of a web server, with these segments. -/
structure Served (base : Url) (list : List String) : Prop where
  scheme : base.scheme = "http" ∨ base.scheme = "https"
  authority : base.authority.isSome = true
  path : base.path = .segments list

/-- A URL of a web server whose path ends with a slash. -/
def Directory (base : Url) (dirs : List String) : Prop := Served base (dirs ++ [""])

namespace Served

variable {base : Url} {list : List String} (h : Served base list)
include h

theorem ne_file : base.scheme ≠ "file" := by
  rcases h.scheme with h | h <;> rw [h] <;> decide

theorem isSpecial : isSpecial base.scheme = true := by
  rcases h.scheme with h | h <;> rw [h] <;> rfl

theorem rooted : Rooted base := ⟨h.ne_file, list, h.path⟩

theorem pathText_eq : base.pathText = segmentsText list := by
  have hnone : base.authority.isNone = false := by
    rw [Option.isNone_eq_false_iff]
    exact h.authority
  unfold pathText
  simp only [h.path, hnone, Bool.false_and, Bool.false_eq_true, if_false, String.empty_append]

end Served

theorem Directory.pathText_eq {base : Url} {dirs : List String} (h : Directory base dirs) :
    base.pathText = segmentsText dirs ++ "/" := by
  rw [Served.pathText_eq h, segmentsText_append]
  rfl

/-- Below a web server a text that is read literally stands in the place of the last segment, as it
is written, and begins no query. -/
theorem join_of_literal {base : Url} {dirs : List String} {last : String}
    (hbase : Served base (dirs ++ [last])) {path : String} (hdescends : Descends path.toList)
    (h : Literal path.toList) : ∃ u, base.join path = .ok u ∧
      Served u (dirs ++ (splitAt '/' path.toList).map segmentText) ∧ u.query = none ∧
      u.pathText = segmentsText dirs ++ "/" ++ String.ofList (encodeChars pathSet path.toList) := by
  have hbreaks : ∀ c ∈ path.toList, isBreak c = false := fun c hc => (h.unmarked c hc).2.2.2
  have hparts : Parts.of path.toList = ⟨path.toList, none, none⟩ := by
    rw [parts_of_unmarked fun c hc => ⟨(h.unmarked c hc).1, (h.unmarked c hc).2.1⟩,
      withoutBreaks_eq_self hbreaks]
  have htrimmed : trimmed path = path.toList := by
    unfold trimmed
    simp only
    rw [hdescends.dropWhile_eq fun c hc => by simpa using lt_toNat_of_isPlain hc]
    exact dropEndWhile_isOuter_eq_self_iff.mpr h.ended
  have hslashed : slashed path.toList = path.toList :=
    slashed_eq_self_iff.mpr fun hmem => (h.unmarked _ hmem).2.2.1 rfl
  have hdots : ∀ part ∈ splitAt '/' path.toList, isDots (segmentText part) = false := by
    intro part hpart
    by_contra hdots
    have hescape := not_hasEscape_of_mem_splitAt h.decoded hpart
    obtain ⟨hsingle, hdouble⟩ := h.still part hpart
    rcases (isDots_segmentText_iff (not_isBreak_of_mem_splitAt hbreaks hpart) hescape).mp
      (by simpa using hdots) with hdots | hdots
    · exact hsingle hdots
    · exact hdouble hdots
  have hjoin := join_eq_of_descends hbase.ne_file hbase.path hdescends
  rw [htrimmed, hparts, hbase.isSpecial, splitSegments_true, hslashed,
    List.dropLast_concat, addSegments_of_not_isDots hbase.ne_file
      (fun _ hpart => tab_not_mem_of_mem_splitAt hbreaks hpart) hdots] at hjoin
  have hserved : Served (assemble base.scheme base.authority
      (.segments (dirs ++ (splitAt '/' path.toList).map segmentText)) ⟨path.toList, none, none⟩)
      (dirs ++ (splitAt '/' path.toList).map segmentText) :=
    ⟨hbase.scheme, hbase.authority, rfl⟩
  refine ⟨_, hjoin, hserved, rfl, ?_⟩
  rw [hserved.pathText_eq, segmentsText_append, String.append_assoc]
  apply String.toList_injective
  simp only [String.toList_append, toList_segmentsText_splitAt hbreaks, String.toList_ofList]
  rfl

/-- What is put behind words is joined to a base segment by segment. -/
theorem join_of_introduces {base : Url} {dirs : List String} (hbase : Directory base dirs)
    {words : String} (hwords : Introduces words.toList) (data : String) :
    base.join (words ++ data) = .ok (assemble base.scheme base.authority
      (.segments (addSegments base.scheme dirs
        (splitAt '/' (words.toList ++ slashed (kept data.toList)))))
      (.of (dropEndWhile isOuter (words.toList ++ data.toList)))) := by
  have hdescends := descends_append hwords.descends data
  have htrimmed : trimmed (words ++ data) =
      dropEndWhile isOuter (words.toList ++ data.toList) := by
    rw [String.toList_append] at hdescends
    unfold trimmed
    simp only [String.toList_append]
    rw [hdescends.dropWhile_eq]
    · rfl
    · intro c hc
      have hlt := lt_toNat_of_isPlain hc
      simpa using hlt
  rw [join_eq_of_descends hbase.ne_file hbase.path hdescends, htrimmed, hbase.isSpecial,
    hwords.front_append, splitSegments_true, hwords.slashed_append, List.dropLast_concat]

/-- The path of a URL is that of a base, then some words, and then what stands for a text. -/
def Names (base : Url) (words data : String) (u : Url) : Prop :=
  ∃ rest, u.pathText = base.pathText ++ words ++ rest ∧
    decodePercent rest.toList = bytes data.toList

section

variable {base : Url} {dirs : List String} (hbase : Directory base dirs) {words : String}
  (hwords : Introduces words.toList) (data : String)

/-- What is put behind the base: the words, and what is kept of the text. -/
def ending (words data : String) : List Char := words.toList ++ slashed (kept data.toList)

include hwords

theorem not_isBreak_ending : ∀ c ∈ ending words data, isBreak c = false :=
  List.forall_mem_append.mpr ⟨fun _ hc => hwords.not_isBreak hc,
    not_isBreak_slashed fun _ hc => (of_mem_front hc).2.2⟩

theorem encodeChars_ending : encodeChars pathSet (ending words data) =
    words.toList ++ encodeChars pathSet (slashed (kept data.toList)) := by
  unfold ending
  rw [encodeChars_append, hwords.encoded]

theorem size_ending : size ((splitAt '/' (ending words data)).map segmentText) =
    1 + ((bytes words.toList).length + (decodePercent (slashed (kept data.toList))).length) := by
  unfold size
  rw [toList_segmentsText_splitAt (not_isBreak_ending hwords data), encodeChars_ending hwords,
    decodePercent_cons_of_ne (by decide), hwords.decodePercent_append,
    decodePercent_encodeChars leavesEscapes_pathSet]
  simp only [List.length_append]
  rfl

include hbase

theorem served_of_join {u : Url} (hjoin : base.join (words ++ data) = .ok u) :
    Served u (addSegments base.scheme dirs (splitAt '/' (ending words data))) := by
  rw [join_of_introduces hbase hwords] at hjoin
  obtain rfl := Except.ok.inj hjoin
  exact ⟨hbase.scheme, hbase.authority, rfl⟩

theorem pathText_of_not_isDots {u : Url}
    (hserved : Served u (addSegments base.scheme dirs (splitAt '/' (ending words data))))
    (hdots : ∀ part ∈ splitAt '/' (ending words data), isDots (segmentText part) = false) :
    u.pathText = base.pathText ++ words ++
      String.ofList (encodeChars pathSet (slashed (kept data.toList))) := by
  have hbreaks := not_isBreak_ending hwords data
  rw [hserved.pathText_eq, addSegments_of_not_isDots hbase.ne_file
    (fun _ hpart => tab_not_mem_of_mem_splitAt hbreaks hpart) hdots,
    Directory.pathText_eq hbase, segmentsText_append]
  apply String.toList_injective
  simp only [String.toList_append, toList_segmentsText_splitAt hbreaks, encodeChars_ending hwords,
    String.toList_ofList]
  simp

theorem names_of_literal {u : Url} (hjoin : base.join (words ++ data) = .ok u)
    (h : Literal data.toList) : Names base words data u ∧ u.query = none := by
  have hwhole : Literal (words ++ data).toList := by
    rw [String.toList_append]
    exact hwords.literal_append h
  obtain ⟨v, hjoin', -, hquery, hpath⟩ :=
    join_of_literal hbase (descends_append hwords.descends data) hwhole
  obtain rfl : v = u := Except.ok.inj (hjoin'.symm.trans hjoin)
  refine ⟨⟨String.ofList (encodeChars pathSet data.toList), ?_, ?_⟩, hquery⟩
  · rw [hpath, hbase.pathText_eq]
    apply String.toList_injective
    simp only [String.toList_append, String.toList_ofList, encodeChars_append, hwords.encoded,
      List.append_assoc]
  · rw [String.toList_ofList, decodePercent_encodeChars leavesEscapes_pathSet,
      decodePercent_of_not_hasEscape h.decoded]

theorem size_of_names {u : Url}
    (hserved : Served u (addSegments base.scheme dirs (splitAt '/' (ending words data))))
    (h : Names base words data u) :
    size (addSegments base.scheme dirs (splitAt '/' (ending words data))) =
      size dirs + (1 + ((bytes words.toList).length + (bytes data.toList).length)) := by
  obtain ⟨rest, hrest, hdecode⟩ := h
  unfold size
  rw [← hserved.pathText_eq, hrest, Directory.pathText_eq hbase]
  simp only [String.toList_append, List.append_assoc]
  rw [show "/".toList = ['/'] from rfl, List.singleton_append, decodePercent_append_slash,
    decodePercent_cons_of_ne (by decide), hwords.decodePercent_append, hdecode]
  simp only [List.length_append]
  rfl

/-- If the path stands for a text, nothing of the text was cut off, decoded or taken for dots:
whatever is lost on the way would be missing in the end. -/
theorem unlost_of_names {u : Url}
    (hserved : Served u (addSegments base.scheme dirs (splitAt '/' (ending words data))))
    (h : Names base words data u) : kept data.toList = data.toList ∧
      hasEscape (slashed (kept data.toList)) = false ∧
        ∀ part ∈ splitAt '/' (ending words data), isDots (segmentText part) = false := by
  have hbreaks := not_isBreak_ending hwords data
  obtain ⟨hle, hlt⟩ := size_addSegments hbase.ne_file
    (fun _ hpart => tab_not_mem_of_mem_splitAt hbreaks hpart) dirs
  rw [size_of_names hbase hwords data hserved h, size_ending hwords] at hle hlt
  have hdecoded := length_decodePercent (slashed (kept data.toList))
  rw [length_bytes_slashed] at hdecoded
  have hbytes := length_bytes_le (kept_sublist data.toList)
  refine ⟨eq_of_length_bytes_le (kept_sublist data.toList) (by omega), ?_, fun part hpart => ?_⟩
  · by_contra hescape
    have hfewer := hdecoded.2 (by simpa using hescape)
    omega
  · by_contra hdots
    have hfewer := hlt ⟨part, hpart, by simpa using hdots⟩
    omega

theorem literal_of_names {u : Url} (hjoin : base.join (words ++ data) = .ok u)
    (h : Names base words data u) : Literal data.toList := by
  have hserved := served_of_join hbase hwords data hjoin
  obtain ⟨hkept, hescape, hdots⟩ := unlost_of_names hbase hwords data hserved h
  -- All of the text is in the path, which can only differ from it by its slashes.
  have hslashed : slashed data.toList = data.toList := by
    obtain ⟨rest, hrest, hdecode⟩ := h
    have htext := pathText_of_not_isDots hbase hwords data hserved hdots
    have hwritten := congrArg String.toList (hrest.symm.trans htext)
    simp only [String.toList_append, List.append_cancel_left_eq] at hwritten
    rw [hwritten, String.toList_ofList, decodePercent_encodeChars leavesEscapes_pathSet,
      decodePercent_of_not_hasEscape hescape, hkept] at hdecode
    exact bytes_injective hdecode
  obtain ⟨hmarks, hend⟩ := kept_eq_self_iff.mp hkept
  rw [hkept, hslashed] at hescape
  refine ⟨fun c hc => ⟨(hmarks c hc).1, (hmarks c hc).2.1, ?_, (hmarks c hc).2.2⟩,
    hend, hescape,
    fun part hpart => ?_⟩
  · rintro rfl
    exact slashed_eq_self_iff.mp hslashed hc
  · obtain ⟨parts, hparts, -⟩ := hwords.splitAt_append data.toList
    have hmem : part ∈ splitAt '/' (ending words data) := by
      unfold ending
      rw [hkept, hslashed, hparts]
      exact List.mem_append_right _ hpart
    have hmoves := isDots_segmentText_iff
      (not_isBreak_of_mem_splitAt (not_isBreak_ending hwords data) hmem)
      (not_hasEscape_of_mem_splitAt hescape hpart)
    rw [hdots part hmem] at hmoves
    exact ⟨fun h => Bool.noConfusion (hmoves.mpr (.inl h)),
      fun h => Bool.noConfusion (hmoves.mpr (.inr h))⟩

/-- What is put behind words is named by the path exactly if it is read literally. -/
theorem names_iff_literal {u : Url} (hjoin : base.join (words ++ data) = .ok u) :
    Names base words data u ↔ Literal data.toList :=
  ⟨literal_of_names hbase hwords data hjoin,
    fun h => (names_of_literal hbase hwords data hjoin h).1⟩

end

end Rollout.Url
