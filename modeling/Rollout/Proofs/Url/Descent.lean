import Mathlib.Data.List.TakeWhile
import Rollout.Url.Parse
/-!
# Relative paths that descend

A path that begins with a plain name and a slash stays below its base: it has no scheme and no host
of its own, whatever follows the slash. What is put after such a beginning, by whomever, can
therefore not lead to another server.
-/

namespace Rollout.Url

open Text (dropEndWhile)

/-- A letter, a digit or a hyphen. -/
def isPlain (c : Char) : Bool := c.isAlphanum || c == '-'

/-- A plain name, a slash, and anything. -/
def Descends (cs : List Char) : Prop :=
  ∃ name rest, cs = name ++ '/' :: rest ∧ name ≠ [] ∧ ∀ c ∈ name, isPlain c = true

theorem descends_iff {cs : List Char} :
    Descends cs ↔ cs.takeWhile isPlain ≠ [] ∧ (cs.dropWhile isPlain).head? = some '/' := by
  constructor
  · rintro ⟨name, rest, rfl, hne, hplain⟩
    rw [List.takeWhile_append_of_pos hplain, List.dropWhile_append_of_pos hplain]
    exact ⟨fun h => hne (List.append_eq_nil_iff.mp h).1, rfl⟩
  · rintro ⟨hne, hslash⟩
    obtain ⟨rest, hrest⟩ := List.head?_eq_some_iff.mp hslash
    refine ⟨cs.takeWhile isPlain, rest, ?_, hne, fun c hc => ?_⟩
    · rw [← hrest, List.takeWhile_append_dropWhile]
    · exact List.mem_takeWhile_imp hc

instance : DecidablePred Descends := fun _ => decidable_of_iff' _ descends_iff

theorem ne_of_isPlain {c d : Char} (h : isPlain c = true) (hd : isPlain d = false) : c ≠ d := by
  intro heq
  rw [heq, hd] at h
  cases h

theorem lt_toNat_of_isPlain {c : Char} (h : isPlain c = true) : 0x20 < c.toNat := by
  have hblank : ∀ n ≤ 0x20, isPlain (Char.ofNat n) = false := by decide
  by_contra hle
  have hc := hblank c.toNat (Nat.not_lt.mp hle)
  rw [Char.ofNat_toNat, h] at hc
  cases hc

theorem isBreak_of_isPlain {c : Char} (h : isPlain c = true) : isBreak c = false := by
  have htab := ne_of_isPlain h (d := '\t') rfl
  have hline := ne_of_isPlain h (d := '\n') rfl
  have hreturn := ne_of_isPlain h (d := '\r') rfl
  simp [isBreak, htab, hline, hreturn]

theorem isSlash_of_isPlain {c : Char} (h : isPlain c = true) : isSlash true c = false := by
  have hslash := ne_of_isPlain h (d := '/') rfl
  have hbackslash := ne_of_isPlain h (d := '\\') rfl
  simp [isSlash, hslash, hbackslash]

namespace Descends

variable {cs : List Char} (h : Descends cs)
include h

theorem append (more : List Char) : Descends (cs ++ more) := by
  obtain ⟨name, rest, rfl, hne, hplain⟩ := h
  exact ⟨name, rest ++ more, by rw [List.append_assoc, List.cons_append], hne, hplain⟩

theorem head : ∃ c rest, cs = c :: rest ∧ isPlain c = true := by
  obtain ⟨name, rest, rfl, hne, hplain⟩ := h
  cases name with
  | nil => exact absurd rfl hne
  | cons c name => exact ⟨c, name ++ '/' :: rest, rfl, hplain c List.mem_cons_self⟩

theorem dropWhile_eq {p : Char → Bool} (hp : ∀ c, isPlain c = true → p c = false) :
    cs.dropWhile p = cs := by
  obtain ⟨c, rest, rfl, hc⟩ := h.head
  rw [List.dropWhile_cons_of_neg]
  rw [hp c hc]
  exact Bool.false_ne_true

theorem dropEndWhile {p : Char → Bool} (hslash : p '/' = false) :
    Descends (dropEndWhile p cs) := by
  obtain ⟨name, rest, rfl, hne, hplain⟩ := h
  refine ⟨name, Text.dropEndWhile p rest, ?_, hne, hplain⟩
  unfold Text.dropEndWhile
  rw [List.reverse_append, List.reverse_cons, List.append_assoc, List.dropWhile_append]
  by_cases hall : (rest.reverse.dropWhile p).isEmpty = true
  · rw [if_pos hall, List.isEmpty_iff.mp hall]
    simp [hslash]
  · rw [if_neg hall]
    simp

theorem takeWhile {p : Char → Bool} (hp : ∀ c, isPlain c = true → p c = true)
    (hslash : p '/' = true) : Descends (cs.takeWhile p) := by
  obtain ⟨name, rest, rfl, hne, hplain⟩ := h
  refine ⟨name, rest.takeWhile p, ?_, hne, hplain⟩
  rw [List.takeWhile_append_of_pos fun c hc => hp c (hplain c hc),
    List.takeWhile_cons_of_pos hslash]

theorem withoutBreaks : Descends (withoutBreaks cs) := by
  obtain ⟨name, rest, rfl, hne, hplain⟩ := h
  refine ⟨name, Url.withoutBreaks rest, ?_, hne, hplain⟩
  have hname : Url.withoutBreaks name = name := by
    apply List.filter_eq_self.mpr
    intro c hc
    rw [isBreak_of_isPlain (hplain c hc)]
    rfl
  unfold Url.withoutBreaks at hname ⊢
  rw [List.filter_append, hname, List.filter_cons_of_pos rfl]

theorem scheme?_eq_none : scheme? cs = none := by
  obtain ⟨name, rest, rfl, -, hplain⟩ := h
  have hname : ((name ++ '/' :: rest).takeWhile fun c =>
      c.isAlphanum || c == '+' || c == '-' || c == '.') = name := by
    rw [List.takeWhile_append_of_pos, List.takeWhile_cons_of_neg, List.append_nil]
    · decide
    · intro c hc
      have hc := hplain c hc
      unfold isPlain at hc
      rcases Bool.or_eq_true_iff.mp hc with hc | hc <;> simp [hc]
  unfold scheme?
  simp only [hname, List.drop_left]
  cases name <;> rfl

theorem front : Descends (Parts.of cs).front := by
  have hfragment := h.withoutBreaks.takeWhile (p := (· != '#'))
    (fun c hc => by simpa using ne_of_isPlain hc (d := '#') rfl) rfl
  exact hfragment.takeWhile (p := (· != '?'))
    (fun c hc => by simpa using ne_of_isPlain hc (d := '?') rfl) rfl

end Descends

theorem descends_trimmed {s : String} (h : Descends s.toList) : Descends (trimmed s) := by
  unfold trimmed
  simp only
  rw [h.dropWhile_eq]
  · exact h.dropEndWhile (p := fun c => c.toNat ≤ 0x20) (by decide)
  · intro c hc
    have hlt := lt_toNat_of_isPlain hc
    simp only [decide_eq_false_iff_not]
    omega

theorem descends_append {s : String} (h : Descends s.toList) (t : String) :
    Descends (s ++ t).toList := by
  rw [String.toList_append]
  exact h.append t.toList

/-! ## Bases -/

/-- A URL that is no file and has segments, so that something can be below it. -/
structure Rooted (u : Url) : Prop where
  scheme : u.scheme ≠ "file"
  listed : ∃ list, u.path = .segments list

/-- A URL that is below another one: it is on the same server. -/
structure Below (base u : Url) : Prop where
  scheme : u.scheme = base.scheme
  authority : u.authority = base.authority
  listed : ∃ list, u.path = .segments list

theorem Below.rooted {base u : Url} (h : Below base u) (hbase : Rooted base) : Rooted u :=
  ⟨h.scheme ▸ hbase.scheme, h.listed⟩

theorem Below.origin {base u : Url} (h : Below base u) : u.origin = base.origin := by
  unfold Url.origin
  rw [h.scheme, h.authority]

theorem origin_withParameter (u : Url) (name value : String) :
    (u.withParameter name value).origin = u.origin := rfl

theorem authority_withParameter (u : Url) (name value : String) :
    (u.withParameter name value).authority = u.authority := rfl

theorem origin_withoutCredentials (u : Url) : u.withoutCredentials.origin = u.origin := by
  unfold Url.origin withoutCredentials
  cases u.authority <;> rfl

theorem readRelative_of_descends (base : Url) (list : List String) {p : Parts}
    (h : Descends p.front) : readRelative base list p = .ok (assemble base.scheme base.authority
      (.segments (addSegments base.scheme list.dropLast
        (splitSegments (isSpecial base.scheme) p.front))) p) := by
  obtain ⟨c, rest, hfront, hc⟩ := h.head
  unfold readRelative
  simp only [hfront, List.takeWhile_cons_of_neg (by simp [isSlash_of_isPlain hc] :
    ¬ isSlash true c = true)]
  rfl

theorem join_eq_of_descends {base : Url} (hscheme : base.scheme ≠ "file") {list : List String}
    (hlist : base.path = .segments list) {s : String} (h : Descends s.toList) :
    base.join s = .ok (assemble base.scheme base.authority
      (.segments (addSegments base.scheme list.dropLast
        (splitSegments (isSpecial base.scheme) (Parts.of (trimmed s)).front)))
      (.of (trimmed s))) := by
  have htrimmed := descends_trimmed h
  have hjoin : base.join s = readRelative base list (.of (trimmed s)) := by
    unfold join readFrom
    simp only [htrimmed.withoutBreaks.scheme?_eq_none, hlist, if_neg hscheme]
  rw [hjoin, readRelative_of_descends base list htrimmed.front]

/-- What descends can be joined to a base, and is below it. -/
theorem join_of_descends {base : Url} (hbase : Rooted base) {s : String}
    (h : Descends s.toList) : ∃ u, base.join s = .ok u ∧ Below base u := by
  obtain ⟨list, hlist⟩ := hbase.listed
  exact ⟨_, join_eq_of_descends hbase.scheme hlist h, rfl, rfl, _, rfl⟩

/-! ## Absolute URLs -/

theorem exists_of_readAfterSlashes {scheme : String} {p : Parts} {cs : List Char} {u : Url}
    (h : readAfterSlashes scheme p cs = .ok u) : ∃ read,
      readAuthority scheme (p.query.isNone && p.fragment.isNone) cs = .ok read ∧
        u = assemble scheme (some read.1) (.segments (match read.2 with
          | [] => if isSpecial scheme then [""] else []
          | c :: cs => addSegments scheme [] (splitSegments (isSpecial scheme)
            (if isSlash (isSpecial scheme) c then cs else c :: cs)))) p := by
  unfold readAfterSlashes at h
  simp only at h
  cases hread : readAuthority scheme (p.query.isNone && p.fragment.isNone) cs with
  | error fault =>
      rw [hread] at h
      cases h
  | ok read =>
      rw [hread] at h
      exact ⟨read, rfl, (Except.ok.inj h).symm⟩

theorem scheme_of_readFile {p : Parts} {u : Url} (h : readFile none p = .ok u) :
    u.scheme = "file" := by
  unfold readFile at h
  simp only at h
  split at h
  · unfold readAfterFileSlashes at h
    simp only at h
    split at h
    · cases h
      rfl
    · cases hhost : readFileHost ((p.front.drop 2).takeWhile fun c => !isSlash true c) with
      | error fault =>
          rw [hhost] at h
          cases h
      | ok authority =>
          rw [hhost] at h
          change (if _ then _ else _) = _ at h
          split at h <;> cases h <;> rfl
  · split at h <;> cases h <;> rfl

theorem drop_length_takeWhile (p : Char → Bool) (cs : List Char) :
    cs.drop (cs.takeWhile p).length = cs.dropWhile p := by
  have h := @List.drop_left Char (cs.takeWhile p) (cs.dropWhile p)
  rwa [List.takeWhile_append_dropWhile] at h

/-- What stands between the scheme of an absolute URL and its query or fragment, and these two. -/
def absoluteParts (s : String) : Parts := .of (((trimmed s).dropWhile (· != ':')).drop 1)

theorem readAfterSlashes_of_parse {s : String} {u : Url} (h : parse s = .ok u)
    (hspecial : isSpecial u.scheme = true) (hfile : u.scheme ≠ "file") :
    readAfterSlashes u.scheme (absoluteParts s)
      ((absoluteParts s).front.dropWhile (isSlash true)) = .ok u := by
  unfold parse readFrom at h
  simp only at h
  cases hscheme : scheme? (withoutBreaks (trimmed s)) with
  | none =>
      rw [hscheme] at h
      cases h
  | some scheme =>
      rw [hscheme] at h
      unfold readWithScheme at h
      simp only at h
      by_cases hread : scheme = "file"
      · rw [if_pos hread] at h
        exact absurd (scheme_of_readFile h) hfile
      · rw [if_neg hread] at h
        by_cases hknown : isSpecial scheme = true
        · rw [if_pos hknown, drop_length_takeWhile] at h
          obtain ⟨_, -, hu⟩ := exists_of_readAfterSlashes h
          have hsame : u.scheme = scheme := hu ▸ rfl
          rw [hsame]
          exact h
        · rw [if_neg hknown] at h
          refine absurd ?_ hknown
          split at h
          · obtain ⟨_, -, rfl⟩ := exists_of_readAfterSlashes h
            exact hspecial
          · cases h
            exact hspecial
          · cases h
            exact hspecial

/-- An absolute URL of a known scheme that is no file has segments. -/
theorem rooted_of_parse {s : String} {u : Url} (h : parse s = .ok u)
    (hspecial : isSpecial u.scheme = true) (hfile : u.scheme ≠ "file") : Rooted u := by
  obtain ⟨_, -, hu⟩ := exists_of_readAfterSlashes (readAfterSlashes_of_parse h hspecial hfile)
  exact ⟨hfile, hu ▸ ⟨_, rfl⟩⟩

end Rollout.Url
