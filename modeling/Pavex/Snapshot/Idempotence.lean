import Pavex.Snapshot.Sanitize

/-!
# Sanitizing twice

When `verify` rejects an output it saves the sanitized output to the `.snap` file, and
accepting the snapshot means installing that file as the expectation, which `verify`
sanitizes once more before comparing. The workflow therefore needs `sanitize_output` to be
idempotent, and it is, on every output.

On one line the regex matches at most once: from the first highlighted-path prefix up to the
last ESC. The normalizer writes the prefix, the path with slashes for backslashes, and the
ESC again, so the rewritten line has the same prefix and the same last ESC, and a second
pass rewrites the path, which has no backslash left, to itself (`replaceAll_replaceAll`).
Trimming adds no ESC, and every line a sanitized output keeps is non-blank, not the debug
note and trimmed already (`sanitizeOutput_lines_clean`), so the line filter keeps it
unchanged.
-/

namespace Pavex.Snapshot

open Str

/-! ## Lines that are already sanitized -/

theorem replace_backslash_replace_backslash (path : List Char) :
    replace (replace path ['\\'] ['/']) ['\\'] ['/'] = replace path ['\\'] ['/'] := by
  rw [replace_singleton, replace_singleton, List.map_map]
  exact List.map_congr_left fun c _ => by by_cases h : c = '\\' <;> simp [h]

/-- A rewritten line is a fixed point of the rewrite: its one match, from the first prefix to
the last ESC, is rewritten to itself. -/
theorem replaceAll_replaceAll {l : List Char} (hl : '\n' ∉ l) :
    replaceAll (replaceAll l) = replaceAll l := by
  cases hs : splitAtHighlight l with
  | none => rw [replaceAll_of_splitAtHighlight_none hs, replaceAll_of_splitAtHighlight_none hs]
  | some br =>
    obtain ⟨b, r⟩ := br
    have hl' := eq_of_splitAtHighlight hs
    rcases esc_not_mem_or_eq_append r with he | ⟨path, post, rfl, hpost⟩
    · have hfix : replaceAll l = l := by
        rw [replaceAll_of_splitAtHighlight_some hs, replaceAll_highlight_of_esc_not_mem he, hl',
          List.append_assoc]
      rw [hfix, hfix]
    · have hnl : '\n' ∉ path := fun hm => hl (by rw [hl']; simp [hm])
      have hnl' : '\n' ∉ replace path ['\\'] ['/'] := fun hm =>
        not_mem_lf_normalizer hnl (by rw [normalizer]; simp [hm])
      have hrw :
          replaceAll l = b ++ pathHighlight ++ (replace path ['\\'] ['/'] ++ esc :: post) := by
        rw [replaceAll_of_splitAtHighlight_some hs, replaceAll_highlight_esc hnl hpost, normalizer]
        simp only [List.append_assoc, List.singleton_append]
      rw [hrw, replaceAll_of_splitAtHighlight_some (splitAtHighlight_append hs _),
        replaceAll_highlight_esc hnl' hpost, normalizer, replace_backslash_replace_backslash]
      simp only [List.append_assoc, List.singleton_append]

/-- Trailing whitespace holds no ESC, so trimming a fixed point keeps it fixed. -/
theorem replaceAll_trimEnd {y : List Char} (hy : '\n' ∉ y) (hfix : replaceAll y = y) :
    replaceAll (trimEnd y) = trimEnd y := by
  obtain ⟨t, ht, hws⟩ := eq_trimEnd_append y
  have hesc : esc ∉ t := fun hm => absurd (hws esc hm) (by decide)
  have hnl : '\n' ∉ trimEnd y := fun hm => hy ((trimEnd_prefix_self y).subset hm)
  have := hfix
  rw [ht, replaceAll_append_of_esc_not_mem hnl hesc] at this
  exact List.append_cancel_right this

/-- A kept line is kept again unchanged. -/
theorem keepLine_of_keepLine {y k : List Char} (h : keepLine y = some k) : keepLine k = some k := by
  unfold keepLine at h ⊢
  split at h
  · cases h
  · next hy =>
    cases h
    simp only [Bool.or_eq_true, not_or, Bool.not_eq_true] at hy
    have hpre : startsWith (trimEnd y) pavexDebugNote = false := by
      cases hs : startsWith (trimEnd y) pavexDebugNote
      · rfl
      · have := (List.isPrefixOf_iff_prefix.mp hs).trans (trimEnd_prefix_self y)
        rw [startsWith, List.isPrefixOf_iff_prefix.mpr this] at hy
        exact absurd hy.2 (by decide)
    rw [if_neg (by simp [trim_trimEnd, hy.1, hpre]), trimEnd_trimEnd]

/-- What `sanitize_output` keeps of a line: a line without LF, trimmed at its end, that the line
filter keeps again unchanged. -/
theorem mem_keptLines {s k : List Char}
    (hk : k ∈ (s.splitOn '\n').filterMap fun l => keepLine (replaceAll l)) :
    ∃ l ∈ s.splitOn '\n', k = trimEnd (replaceAll l) ∧ '\n' ∉ k ∧ keepLine k = some k := by
  obtain ⟨l, hl, hkl⟩ := List.mem_filterMap.mp hk
  have hy := replaceAll_not_mem_lf (not_mem_of_mem_splitOn hl)
  have hk : k = trimEnd (replaceAll l) := by
    unfold keepLine at hkl; split at hkl <;> simp_all
  exact ⟨l, hl, hk, fun hm => hy ((trimEnd_prefix_self _).subset (hk ▸ hm)),
    keepLine_of_keepLine hkl⟩

/-- The lines of a sanitized output are the lines `sanitize_output` kept. -/
theorem splitOn_sanitizeOutput {s : List Char} (hne : sanitizeOutput s ≠ []) :
    (sanitizeOutput s).splitOn '\n' =
      (s.splitOn '\n').filterMap fun l => keepLine (replaceAll l) := by
  rw [sanitizeOutput_eq_lines] at hne ⊢
  refine List.splitOn_intercalate _ '\n' (fun k hk => ?_) fun h => hne (by rw [h]; rfl)
  obtain ⟨-, -, -, hnl, -⟩ := mem_keptLines hk
  exact hnl

/-- **Sanitizing a sanitized output changes nothing.** Each line it keeps is a fixed point of
the rewrite and of the line filter. -/
theorem sanitizeOutput_sanitizeOutput (s : List Char) :
    sanitizeOutput (sanitizeOutput s) = sanitizeOutput s := by
  have hkept : ∀ k ∈ (s.splitOn '\n').filterMap (fun l => keepLine (replaceAll l)),
      keepLine (replaceAll k) = some k := by
    intro k hk
    obtain ⟨l, hl, rfl, -, hkk⟩ := mem_keptLines hk
    have hy := replaceAll_not_mem_lf (not_mem_of_mem_splitOn hl)
    rw [replaceAll_trimEnd hy (replaceAll_replaceAll (not_mem_of_mem_splitOn hl))]
    exact hkk
  rcases eq_or_ne (sanitizeOutput s) [] with hnil | hne
  · rw [hnil]
    simp [List.intercalate, sanitizeOutput_eq_lines]
  · conv_rhs => rw [sanitizeOutput_eq_lines, ← List.filterMap_some (List.filterMap _ _)]
    rw [sanitizeOutput_eq_lines (sanitizeOutput s), splitOn_sanitizeOutput hne]
    exact congrArg _ (List.filterMap_congr hkept)

/-- **A sanitized output is clean, line by line.** Unless it is empty, every LF-separated line
of what `sanitize_output` returns has a character other than whitespace, does not start with
the debug note, and has no trailing whitespace, so no CR either: the line filter of
`sanitize_output` keeps each of them unchanged. -/
theorem sanitizeOutput_lines_clean (s : List Char) :
    sanitizeOutput s = [] ∨ ∀ l ∈ (sanitizeOutput s).splitOn '\n',
      trim l ≠ [] ∧ startsWith l pavexDebugNote = false ∧ trimEnd l = l := by
  refine or_iff_not_imp_left.mpr fun hne l hl => ?_
  rw [splitOn_sanitizeOutput hne] at hl
  obtain ⟨-, -, -, -, hkeep⟩ := mem_keptLines hl
  unfold keepLine at hkeep
  split at hkeep
  · cases hkeep
  · next hy =>
    simp only [Bool.or_eq_true, not_or, Bool.not_eq_true] at hy
    exact ⟨List.isEmpty_eq_false.mp hy.1, hy.2, Option.some.inj hkeep⟩

/-! ## Accepting a snapshot -/

/-- **Accepting a snapshot makes the test pass.** `sanitize_output` is idempotent, so whenever
`verify` rejects an output it saves a `.snap` file, and with that file installed as the
expectation the next run of `verify` on the same output accepts it and removes the `.snap`
file, whatever `.snap` file is there by then. -/
theorem verify_accepts_installed_snapshot :
    (∀ s, sanitizeOutput (sanitizeOutput s) = sanitizeOutput s) ∧
    ∀ (t : SnapshotTest) (files files' : SnapshotFiles) (actual : List Char),
      verify t files actual = some (.error (), files') →
      ∃ snap, files'.lastSnapshot = some snap ∧ ∀ last,
        verify t ⟨.ok snap, last⟩ actual = some (.ok (), ⟨.ok snap, none⟩) :=
  ⟨sanitizeOutput_sanitizeOutput, fun t _ _ actual hrej =>
    ⟨_, lastSnapshot_of_verify_error hrej, fun _ => by
      simpa [verify] using
        sanitizeOutput_sanitizeOutput (replace actual t.appNameWithHash "app".toList)⟩⟩

/-- A compiler location with a Windows path: the highlighted path `src\lib.rs`, closed by the
ESC of `ESC[0m`. -/
def windowsLocation : List Char :=
  pathHighlight ++ "src\\lib.rs".toList ++ esc :: "[0m:1:1".toList

/-- The same location with the Unix path `src/lib.rs`. -/
def unixLocation : List Char :=
  pathHighlight ++ "src/lib.rs".toList ++ esc :: "[0m:1:1".toList

theorem sanitizeOutput_windowsLocation : sanitizeOutput windowsLocation = unixLocation := by
  have hrw : replaceAll windowsLocation = unixLocation := by
    rw [windowsLocation, List.append_assoc, replaceAll_highlight_esc (by decide) (by decide),
      normalizer, replace_singleton]
    rfl
  rw [sanitizeOutput_eq_lines, show windowsLocation.splitOn '\n' = [windowsLocation] by decide,
    List.filterMap_cons, hrw, show keepLine unixLocation = some unixLocation by decide]
  rfl

/-- The first run, with no expectation file, rejects `windowsLocation` and saves it with its
path normalised; with that file installed, the next run accepts it. -/
theorem verify_accepts_installed_windowsLocation :
    verify ⟨"app_0123".toList⟩ ⟨.error .notFound, none⟩ windowsLocation =
        some (.error (), ⟨.error .notFound, some unixLocation⟩) ∧
      sanitizeOutput (sanitizeOutput windowsLocation) = sanitizeOutput windowsLocation ∧
      ∃ snap, some unixLocation = some snap ∧
        ∀ last, verify ⟨"app_0123".toList⟩ ⟨.ok snap, last⟩ windowsLocation =
          some (.ok (), ⟨.ok snap, none⟩) :=
  have hrej : verify ⟨"app_0123".toList⟩ ⟨.error .notFound, none⟩ windowsLocation =
      some (.error (), ⟨.error .notFound, some unixLocation⟩) := by
    have hrep : replace windowsLocation "app_0123".toList "app".toList = windowsLocation :=
      replace_eq_self (by decide)
    have hnil : sanitizeOutput [] = [] := by simp [sanitizeOutput_eq_lines, List.intercalate]
    have hne : [] ≠ unixLocation := by decide
    simp only [verify, hrep, hnil, sanitizeOutput_windowsLocation]
    simp [hne, hnil]
  ⟨hrej, verify_accepts_installed_snapshot.1 windowsLocation,
    verify_accepts_installed_snapshot.2 _ _ _ _ hrej⟩

end Pavex.Snapshot
