import Pavex.Snapshot.Regex

/-!
# `SnapshotTest::sanitize_output` and `SnapshotTest::verify`

A snapshot test compares the compiler's output with an expectation file, both passed through
`sanitize_output` first. That function replaces CRLF by LF, normalises highlighted paths with
the regex of `Regex.lean`, and then keeps the non-blank lines other than the debug note, each
trimmed at its end, joined again with LF.

The main result of this file, `sanitizeOutput_eq_lines`, reads the whole pipeline line by
line: the output is the LF-separated lines of the input, each path-normalised and kept or
dropped on its own. The CRLF replacement leaves no trace in that reading: `str::lines` and
`trim_end` remove the CR it would have removed.

`verify` is modelled with the two files it touches. Printing the changeset is left out: it
only writes to the terminal.
-/

namespace Pavex.Snapshot

open Str

/-- The note the compiler prints after an error, dropped from snapshots. -/
def pavexDebugNote : List Char :=
  ("\x1b[1m\x1b[36mnote\x1b[0m\x1b[1m:\x1b[0m Rerun with `PAVEX_DEBUG=true` " ++
    "to display more error details").toList

/-- The `filter_map` closure of `sanitize_output`: blank lines and the debug note go, the
other lines lose their trailing whitespace. -/
def keepLine (l : List Char) : Option (List Char) :=
  if (trim l).isEmpty || startsWith l pavexDebugNote then none else some (trimEnd l)

/-- The lines `sanitize_output` collects before joining them. -/
def sanitizedLines (output : List Char) : List (List Char) :=
  (lines (replaceAll (replace output ['\r', '\n'] ['\n']))).filterMap keepLine

/-- `SnapshotTest::sanitize_output`. -/
def sanitizeOutput (output : List Char) : List Char :=
  List.intercalate ['\n'] (sanitizedLines output)

/-! ## `keepLine` and a trailing CR -/

theorem startsWith_append_cr (l : List Char) :
    startsWith (l ++ ['\r']) pavexDebugNote = startsWith l pavexDebugNote := by
  have hlast : pavexDebugNote ≠ l ++ ['\r'] := fun h => by
    have : pavexDebugNote.getLast? = some '\r' := by rw [h]; simp
    exact absurd this (by decide)
  unfold startsWith
  rw [Bool.eq_iff_iff, List.isPrefixOf_iff_prefix, List.isPrefixOf_iff_prefix,
    List.prefix_concat_iff]
  exact ⟨fun h => h.resolve_left hlast, Or.inr⟩

theorem keepLine_append_cr (l : List Char) : keepLine (l ++ ['\r']) = keepLine l := by
  have hcr : isWhitespace '\r' = true := by decide
  simp only [keepLine, trim, trimEnd_append_of_isWhitespace hcr, startsWith_append_cr]

theorem keepLine_stripCR (l : List Char) : keepLine (stripCR l) = keepLine l := by
  rcases stripCR_cases l with h | h
  · rw [h]
  · conv_rhs => rw [h]
    rw [keepLine_append_cr]

theorem keepLine_replaceAll_stripCR {l : List Char} (hl : '\n' ∉ l) :
    keepLine (replaceAll (stripCR l)) = keepLine (replaceAll l) := by
  rcases stripCR_cases l with h | h
  · rw [h]
  · have hs : '\n' ∉ stripCR l := fun hm => hl ((stripCR_prefix_self l).subset hm)
    conv_rhs => rw [h, replaceAll_append_of_esc_not_mem hs (by decide), keepLine_append_cr]

@[simp] theorem keepLine_nil : keepLine [] = none := rfl

/-! ## Line by line -/

theorem filterMap_cons_toList {α β : Type} (f : α → Option β) (a : α) (l : List α) :
    (a :: l).filterMap f = (f a).toList ++ l.filterMap f := by
  rw [List.filterMap_cons]; cases f a <;> rfl

/-- What `sanitize_output` keeps of a text after the CRLF replacement. -/
def normalizedLines (t : List Char) : List (List Char) :=
  (lines (replaceAll t)).filterMap keepLine

theorem sanitizedLines_eq (output : List Char) :
    sanitizedLines output = normalizedLines (replace output ['\r', '\n'] ['\n']) := rfl

theorem normalizedLines_append_lf {x : List Char} (hx : '\n' ∉ x) (y : List Char) :
    normalizedLines (x ++ '\n' :: y) = (keepLine (replaceAll x)).toList ++ normalizedLines y := by
  rw [normalizedLines, replaceAll_append_lf hx, lines_append_lf _ (replaceAll_not_mem_lf hx),
    filterMap_cons_toList, keepLine_stripCR]; rfl

theorem normalizedLines_of_not_mem {x : List Char} (hx : '\n' ∉ x) :
    normalizedLines x = (keepLine (replaceAll x)).toList := by
  rw [normalizedLines, lines_of_not_mem (replaceAll_not_mem_lf hx)]
  split
  · next h => rw [h]; rfl
  · rw [filterMap_cons_toList, List.filterMap_nil, List.append_nil]

/-- Every line of a text joined at LF is normalised and kept or dropped on its own. -/
theorem normalizedLines_intercalate : ∀ {L : List (List Char)}, L ≠ [] → (∀ l ∈ L, '\n' ∉ l) →
    normalizedLines (List.intercalate ['\n'] L) = L.filterMap (fun l => keepLine (replaceAll l))
  | [l], _, h => by
    rw [intercalate_lf_singleton, normalizedLines_of_not_mem (h l (List.mem_singleton_self l)),
      filterMap_cons_toList, List.filterMap_nil, List.append_nil]
  | l :: l' :: ls, _, h => by
    rw [intercalate_lf_cons_cons, normalizedLines_append_lf (h l (List.mem_cons_self _ _)),
      normalizedLines_intercalate (List.cons_ne_nil l' ls)
        (fun m hm => h m (List.mem_cons_of_mem l hm)), filterMap_cons_toList _ l]

/-- With the CRLF replacement first, every line loses a CR that `lines` and `trim_end`
would have removed anyway. -/
theorem sanitizedLines_intercalate : ∀ {L : List (List Char)}, L ≠ [] → (∀ l ∈ L, '\n' ∉ l) →
    sanitizedLines (List.intercalate ['\n'] L) = L.filterMap (fun l => keepLine (replaceAll l))
  | [l], hne, h => by
    have hn := normalizedLines_intercalate hne h
    rw [intercalate_lf_singleton] at hn
    rw [sanitizedLines_eq, intercalate_lf_singleton,
      replace_crlf_of_not_mem (h l (List.mem_singleton_self l)), hn]
  | l :: l' :: ls, _, h => by
    have hl := h l (List.mem_cons_self _ _)
    have hrest := fun m hm => h m (List.mem_cons_of_mem l hm)
    rw [sanitizedLines_eq, intercalate_lf_cons_cons, replace_crlf_append_lf _ hl,
      normalizedLines_append_lf (fun hm => hl ((stripCR_prefix_self l).subset hm)),
      keepLine_replaceAll_stripCR hl, ← sanitizedLines_eq,
      sanitizedLines_intercalate (List.cons_ne_nil l' ls) hrest, filterMap_cons_toList _ l]

/-- **`sanitize_output` works line by line.** Each LF-separated line of the input is
path-normalised, dropped when blank or the debug note, and otherwise trimmed at its end. -/
theorem sanitizeOutput_eq_lines (s : List Char) :
    sanitizeOutput s =
      List.intercalate ['\n'] ((s.splitOn '\n').filterMap (fun l => keepLine (replaceAll l))) := by
  have hne : s.splitOn '\n' ≠ [] := List.splitOnP_ne_nil _ s
  conv_lhs => rw [← List.intercalate_splitOn s '\n']
  rw [sanitizeOutput, sanitizedLines_intercalate hne (fun _ hl => not_mem_of_mem_splitOn hl)]

/-! ## `verify` -/

/-- The part of `SnapshotTest` that `verify` reads besides the files: the test crate's name
with its hash suffix. -/
structure SnapshotTest where
  appNameWithHash : List Char

/-- The kind of a failed read: only `ErrorKind::NotFound` is told apart. -/
inductive ReadError
  | notFound
  | other
  deriving DecidableEq, Repr

/-- The two files `verify` touches: the expectation file and the `.snap` file beside it. -/
structure SnapshotFiles where
  expectation : Except ReadError (List Char)
  lastSnapshot : Option (List Char)

/-- `SnapshotTest::verify`: `none` is the panic of `expect` on a read error other than
`NotFound`; `.error ()` rejects the output after saving it to the `.snap` file. -/
def verify (t : SnapshotTest) (files : SnapshotFiles) (actual : List Char) :
    Option (Except Unit Unit × SnapshotFiles) := do
  let actual := replace actual t.appNameWithHash "app".toList
  let expected ← match files.expectation with
    | .ok s => some s
    | .error .notFound => some []
    | .error .other => none
  let expected := sanitizeOutput expected
  let actual := sanitizeOutput actual
  if expected != actual then
    return (.error (), { files with lastSnapshot := some actual })
  else
    return (.ok (), { files with lastSnapshot := none })

/-- A rejection saves the sanitized output, with the app name replaced, to the `.snap` file. -/
theorem lastSnapshot_of_verify_error {t : SnapshotTest} {files files' : SnapshotFiles}
    {actual : List Char} (h : verify t files actual = some (.error (), files')) :
    files'.lastSnapshot = some (sanitizeOutput (replace actual t.appNameWithHash "app".toList)) := by
  unfold verify at h
  split at h
  all_goals simp only [Option.bind_eq_bind, Option.some_bind, Option.none_bind, Option.pure_def,
    reduceCtorEq] at h
  all_goals split at h
  all_goals obtain ⟨⟩ := h
  all_goals rfl

end Pavex.Snapshot
