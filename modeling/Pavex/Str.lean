import Mathlib.Data.List.DropRight
import Mathlib.Data.List.Basic

/-!
# Rust `str` methods on `List Char`

The snapshot runner (`pavex_test_runner/src/snapshot.rs`) normalises compiler output with a
handful of `str` methods: `replace`, `lines`, `trim`, `trim_end`, `starts_with`, and `join` on
the collected lines. A Rust string is a sequence of Unicode scalar values, and every one of
these methods works on `char` boundaries, so a string is a `List Char` here and each method
is written after its documented behaviour.

The lemmas below are the ones the line-by-line reading of `sanitize_output` needs: how
`replace` and `lines` act on a text cut at its first LF, and how trimming treats a trailing
CR.
-/

namespace Pavex.Str

/-! ## Characters and trimming -/

/-- `char::is_whitespace`: the Unicode `White_Space` property. -/
def isWhitespace (c : Char) : Bool :=
  let n := c.toNat
  n == 0x20 || (decide (0x09 ≤ n) && decide (n ≤ 0x0d)) || n == 0x85 || n == 0xa0 ||
    n == 0x1680 || (decide (0x2000 ≤ n) && decide (n ≤ 0x200a)) || n == 0x2028 ||
    n == 0x2029 || n == 0x202f || n == 0x205f || n == 0x3000

/-- `str::trim_end`: drop the trailing whitespace. -/
def trimEnd (s : List Char) : List Char := s.rdropWhile isWhitespace

/-- `str::trim_start`: drop the leading whitespace. -/
def trimStart (s : List Char) : List Char := s.dropWhile isWhitespace

/-- `str::trim`: drop the whitespace at both ends. -/
def trim (s : List Char) : List Char := trimStart (trimEnd s)

/-- `str::starts_with`. -/
def startsWith (s pat : List Char) : Bool := pat.isPrefixOf s

/-- `str::strip_suffix` with a `char` pattern. -/
def stripSuffix (s : List Char) (c : Char) : Option (List Char) :=
  if s.getLast? = some c then some s.dropLast else none

/-- Drop one trailing CR, if there is one. -/
def stripCR (s : List Char) : List Char := (stripSuffix s '\r').getD s

theorem trimEnd_append_of_isWhitespace {c : Char} (h : isWhitespace c = true) (s : List Char) :
    trimEnd (s ++ [c]) = trimEnd s :=
  List.rdropWhile_concat_pos _ _ _ h

theorem trimEnd_prefix_self (s : List Char) : trimEnd s <+: s := List.rdropWhile_prefix _ _

theorem trimEnd_trimEnd (s : List Char) : trimEnd (trimEnd s) = trimEnd s :=
  List.rdropWhile_idempotent _ _

/-- A text is its `trim_end` followed by the whitespace it dropped. -/
theorem eq_trimEnd_append (s : List Char) :
    ∃ t, s = trimEnd s ++ t ∧ ∀ c ∈ t, isWhitespace c = true :=
  ⟨s.rtakeWhile isWhitespace, by
    simp only [trimEnd, List.rdropWhile, List.rtakeWhile, ← List.reverse_append,
      List.takeWhile_append_dropWhile, List.reverse_reverse],
    fun _ hc => List.mem_rtakeWhile_imp hc⟩

theorem trim_eq_nil_iff {s : List Char} : trim s = [] ↔ ∀ c ∈ s, isWhitespace c = true := by
  constructor
  · intro h
    have hall := List.dropWhile_eq_nil_iff.mp h
    have hnil : trimEnd s = [] := by
      by_contra hne
      exact List.rdropWhile_last_not _ _ hne (hall _ (List.getLast_mem hne))
    exact List.rdropWhile_eq_nil_iff.mp hnil
  · intro h
    simp [trim, trimStart, trimEnd, List.rdropWhile_eq_nil_iff.mpr h]

theorem trim_trimEnd (s : List Char) : trim (trimEnd s) = trim s := by
  simp only [trim, trimEnd_trimEnd]

/-! ## `stripCR` -/

@[simp] theorem stripCR_append_cr (s : List Char) : stripCR (s ++ ['\r']) = s := by
  simp [stripCR, stripSuffix]

theorem stripCR_of_getLast?_ne {s : List Char} (h : s.getLast? ≠ some '\r') : stripCR s = s := by
  simp [stripCR, stripSuffix, h]

/-- A line either has no trailing CR to strip, or is what `stripCR` leaves with one CR after. -/
theorem stripCR_cases (s : List Char) : stripCR s = s ∨ s = stripCR s ++ ['\r'] := by
  by_cases h : s.getLast? = some '\r'
  · right
    obtain ⟨t, rfl⟩ : ∃ t, s = t ++ ['\r'] :=
      ⟨s.dropLast, (List.dropLast_append_getLast? _ h).symm⟩
    simp
  · exact .inl (stripCR_of_getLast?_ne h)

theorem stripCR_prefix_self (s : List Char) : stripCR s <+: s := by
  rcases stripCR_cases s with h | h
  · exact ⟨[], by rw [List.append_nil, h]⟩
  · exact ⟨['\r'], h.symm⟩

theorem stripCR_cons {s : List Char} (hs : s ≠ []) (c : Char) :
    stripCR (c :: s) = c :: stripCR s := by
  obtain ⟨d, t, rfl⟩ := List.exists_cons_of_ne_nil hs
  by_cases h : (d :: t).getLast? = some '\r' <;> simp [stripCR, stripSuffix, h]

/-! ## `replace` -/

/-- `str::replace`: the non-overlapping occurrences of `pat`, found from the left, each
replaced by `rep`. An empty pattern matches at every character boundary. -/
def replace (s pat rep : List Char) : List Char :=
  match s with
  | [] => if pat.isEmpty then rep else []
  | c :: cs =>
    if _ : pat.isEmpty then rep ++ c :: replace cs pat rep
    else if pat.isPrefixOf (c :: cs) then rep ++ replace ((c :: cs).drop pat.length) pat rep
    else c :: replace cs pat rep
termination_by s.length
decreasing_by
  all_goals simp_wf
  have : 0 < pat.length := by cases pat <;> simp_all
  omega

section replace

variable {pat rep : List Char}

theorem replace_nil (h : pat ≠ []) : replace [] pat rep = [] := by
  rw [replace]; cases pat <;> simp_all

theorem replace_cons_of_isPrefixOf {c : Char} {cs : List Char} (h : pat ≠ [])
    (hp : pat.isPrefixOf (c :: cs) = true) :
    replace (c :: cs) pat rep = rep ++ replace ((c :: cs).drop pat.length) pat rep := by
  rw [replace]; cases pat <;> simp_all

theorem replace_cons_of_not_isPrefixOf {c : Char} {cs : List Char}
    (hp : pat.isPrefixOf (c :: cs) = false) :
    replace (c :: cs) pat rep = c :: replace cs pat rep := by
  rw [replace]; cases pat <;> simp_all

/-- A one-character pattern is a character map. -/
theorem replace_singleton (a b : Char) :
    ∀ s : List Char, replace s [a] [b] = s.map (fun c => if c = a then b else c)
  | [] => replace_nil (by simp)
  | c :: cs => by
    by_cases hc : c = a
    · subst hc
      rw [replace_cons_of_isPrefixOf (by simp) (by simp)]
      simp [replace_singleton c b cs]
    · rw [replace_cons_of_not_isPrefixOf (by simp [List.isPrefixOf, Ne.symm hc])]
      simp [hc, replace_singleton a b cs]

/-- Without the pattern's first character the text is left alone. -/
theorem replace_eq_self {p : Char} {ps : List Char} :
    ∀ {s : List Char}, p ∉ s → replace s (p :: ps) rep = s
  | [], _ => replace_nil (by simp)
  | c :: cs, h => by
    have hc : c ≠ p := fun e => h (e ▸ List.mem_cons_self c cs)
    rw [replace_cons_of_not_isPrefixOf (by simp [List.isPrefixOf, Ne.symm hc]),
      replace_eq_self (fun hm => h (List.mem_cons_of_mem c hm))]

end replace

/-! ## `replace("\r\n", "\n")` -/

/-- The only CRLF pair in a text whose first LF closes the line `s` is at that LF. -/
theorem not_isPrefixOf_crlf_cons (c : Char) (rest : List Char) {s : List Char} (hs : s ≠ [])
    (h : '\n' ∉ s) : ['\r', '\n'].isPrefixOf (c :: (s ++ rest)) = false := by
  obtain ⟨d, s', rfl⟩ := List.exists_cons_of_ne_nil hs
  have hd : d ≠ '\n' := fun e => h (e ▸ List.mem_cons_self d s')
  simp [List.isPrefixOf, Ne.symm hd]

theorem replace_crlf_of_not_mem : ∀ {s : List Char}, '\n' ∉ s →
    replace s ['\r', '\n'] ['\n'] = s
  | [], _ => replace_nil (by simp)
  | [c], h => by
    have hc : c ≠ '\n' := fun e => h (e ▸ List.mem_singleton_self c)
    rw [replace_cons_of_not_isPrefixOf (by simp [List.isPrefixOf]), replace_nil (by simp)]
  | c :: d :: s, h => by
    have hds : '\n' ∉ d :: s := fun hm => h (List.mem_cons_of_mem c hm)
    have hp := not_isPrefixOf_crlf_cons c [] (List.cons_ne_nil d s) hds
    rw [List.append_nil] at hp
    rw [replace_cons_of_not_isPrefixOf hp, replace_crlf_of_not_mem hds]

/-- `replace("\r\n", "\n")` on a text cut at its first LF: the line loses its CR, if it
ends in one, and the rest is processed on its own. -/
theorem replace_crlf_append_lf (rest : List Char) : ∀ {s : List Char}, '\n' ∉ s →
    replace (s ++ '\n' :: rest) ['\r', '\n'] ['\n'] =
      stripCR s ++ '\n' :: replace rest ['\r', '\n'] ['\n']
  | [], _ => by
    rw [List.nil_append, replace_cons_of_not_isPrefixOf (by simp [List.isPrefixOf])]
    rfl
  | [c], h => by
    by_cases hc : c = '\r'
    · subst hc
      rw [List.singleton_append, replace_cons_of_isPrefixOf (by simp) (by simp [List.isPrefixOf])]
      simpa using stripCR_append_cr []
    · rw [List.singleton_append,
        replace_cons_of_not_isPrefixOf (by simp [List.isPrefixOf, hc, Ne.symm hc]),
        replace_cons_of_not_isPrefixOf (by simp [List.isPrefixOf]),
        stripCR_of_getLast?_ne (by simpa using hc)]
      rfl
  | c :: d :: s, h => by
    have hds : '\n' ∉ d :: s := fun hm => h (List.mem_cons_of_mem c hm)
    rw [List.cons_append, replace_cons_of_not_isPrefixOf (not_isPrefixOf_crlf_cons c _
      (List.cons_ne_nil d s) hds), replace_crlf_append_lf rest hds,
      stripCR_cons (List.cons_ne_nil d s)]
    rfl

/-! ## `lines` -/

/-- `str::split_inclusive('\n')`: the pieces of the text, each up to and including an LF,
and a last piece without LF when the text does not end in one. -/
def splitInclusive : List Char → List (List Char)
  | [] => []
  | c :: cs =>
    if c = '\n' then ['\n'] :: splitInclusive cs
    else match splitInclusive cs with
      | [] => [[c]]
      | l :: ls => (c :: l) :: ls

/-- What `str::lines` keeps of a `split_inclusive` piece: its final LF goes, and then a CR
before that LF. -/
def lineOf (piece : List Char) : List Char :=
  match stripSuffix piece '\n' with
  | none => piece
  | some l => stripCR l

/-- `str::lines`. -/
def lines (s : List Char) : List (List Char) := (splitInclusive s).map lineOf

theorem splitInclusive_append_lf (rest : List Char) : ∀ {s : List Char}, '\n' ∉ s →
    splitInclusive (s ++ '\n' :: rest) = (s ++ ['\n']) :: splitInclusive rest
  | [], _ => by simp [splitInclusive]
  | c :: s, h => by
    have hc : c ≠ '\n' := fun e => h (e ▸ List.mem_cons_self c s)
    have hs : '\n' ∉ s := fun hm => h (List.mem_cons_of_mem c hm)
    simp [splitInclusive, hc, splitInclusive_append_lf rest hs]

theorem splitInclusive_of_not_mem : ∀ {s : List Char}, '\n' ∉ s → s ≠ [] →
    splitInclusive s = [s]
  | [c], h, _ => by
    have hc : c ≠ '\n' := fun e => h (e ▸ List.mem_singleton_self c)
    simp [splitInclusive, hc]
  | c :: d :: s, h, _ => by
    have hc : c ≠ '\n' := fun e => h (e ▸ List.mem_cons_self c _)
    have hs : '\n' ∉ d :: s := fun hm => h (List.mem_cons_of_mem c hm)
    rw [splitInclusive, if_neg hc, splitInclusive_of_not_mem hs (List.cons_ne_nil d s)]

theorem lines_append_lf (rest : List Char) {s : List Char} (h : '\n' ∉ s) :
    lines (s ++ '\n' :: rest) = stripCR s :: lines rest := by
  simp [lines, splitInclusive_append_lf rest h, lineOf, stripSuffix]

theorem lines_of_not_mem {s : List Char} (h : '\n' ∉ s) :
    lines s = if s = [] then [] else [s] := by
  split
  · subst s; rfl
  · have hl : s.getLast? ≠ some '\n' := fun e => h (List.mem_of_getLast?_eq_some e)
    simp [lines, splitInclusive_of_not_mem h ‹_›, lineOf, stripSuffix, hl]

/-! ## Joining and splitting at LF -/

@[simp] theorem intercalate_lf_singleton (l : List Char) : List.intercalate ['\n'] [l] = l := by
  simp [List.intercalate]

theorem intercalate_lf_cons_cons (l l' : List Char) (ls : List (List Char)) :
    List.intercalate ['\n'] (l :: l' :: ls) = l ++ '\n' :: List.intercalate ['\n'] (l' :: ls) := by
  simp [List.intercalate, List.intersperse]

/-- The pieces `splitOn` cuts out hold no separator. -/
theorem not_mem_of_mem_splitOn {c : Char} : ∀ {s l : List Char}, l ∈ s.splitOn c → c ∉ l
  | [], l, h => by simp at h; subst h; simp
  | x :: xs, l, h => by
    simp only [List.splitOn, List.splitOnP_cons] at h
    split at h
    · rcases List.mem_cons.mp h with rfl | h
      · simp
      · exact not_mem_of_mem_splitOn h
    · next hx =>
      have hne := List.splitOnP_ne_nil (· == c) xs
      obtain ⟨hd, tl, htl⟩ := List.exists_cons_of_ne_nil hne
      rw [htl, List.modifyHead_cons] at h
      have hmem : ∀ {m}, m ∈ hd :: tl → c ∉ m := fun hm =>
        not_mem_of_mem_splitOn (by simp only [List.splitOn]; rw [htl]; exact hm)
      rcases List.mem_cons.mp h with rfl | h
      · simp only [List.mem_cons, not_or]
        exact ⟨fun e => hx (by simp [e]), hmem (List.mem_cons_self _ _)⟩
      · exact hmem (List.mem_cons_of_mem _ h)

end Pavex.Str
