import Pavex.Snapshot.Sanitize

/-!
# One snapshot for every platform

The comments of `sanitize_output` name its two cross-platform steps: CRLF line endings become
LF, and in a highlighted path the Windows separator `\` becomes `/`. This file states what
those steps buy. `windowsRendering` is the Windows form of a compiler output: on each line
every `/` between the end of the first highlighted-path prefix and the last ESC becomes `\`,
and then every LF becomes CRLF. `sanitizeOutput_windowsRendering` proves that the Windows form
and the original sanitize to the same text.

The proof goes through `sanitizeOutput_eq_lines`. Inserting a CR before each LF is undone by
the CRLF replacement, and on one line `replaceAll` maps both separators to `/` in exactly the
region the rendering touches.
-/

namespace Pavex.Snapshot

open Str

/-- `/` as the Windows separator. -/
def toBackslash (c : Char) : Char := if c = '/' then '\\' else c

/-- The Windows form of one line: every `/` between the end of its first highlighted-path
prefix and its last ESC becomes `\`. -/
def windowsLine (l : List Char) : List Char :=
  match splitAtHighlight l with
  | none => l
  | some (b, r) =>
    let path := (r.rdropWhile (· != esc)).dropLast
    b ++ pathHighlight ++ (path.map toBackslash ++ r.drop path.length)

/-- Every LF written as CRLF. -/
def lfToCrlf (s : List Char) : List Char :=
  s.flatMap fun c => if c = '\n' then ['\r', '\n'] else [c]

/-- The Windows form of a text: each LF-separated line in its Windows form, then every LF as
CRLF. -/
def windowsRendering (s : List Char) : List Char :=
  lfToCrlf (List.intercalate ['\n'] ((s.splitOn '\n').map windowsLine))

/-! ## CRLF -/

theorem lfToCrlf_cons (c : Char) (s : List Char) :
    lfToCrlf (c :: s) = (if c = '\n' then ['\r', '\n'] else [c]) ++ lfToCrlf s := rfl

theorem head?_lfToCrlf_ne_lf : ∀ s : List Char, (lfToCrlf s).head? ≠ some '\n'
  | [] => by simp [lfToCrlf]
  | c :: s => by
    rw [lfToCrlf_cons]
    by_cases hc : c = '\n' <;> simp [hc]

/-- The CRLF replacement undoes `lfToCrlf` exactly. -/
theorem replace_crlf_lfToCrlf : ∀ t : List Char, replace (lfToCrlf t) ['\r', '\n'] ['\n'] = t
  | [] => replace_nil (by simp)
  | c :: t => by
    rw [lfToCrlf_cons]
    by_cases hc : c = '\n'
    · rw [if_pos hc, List.cons_append, replace_cons_of_isPrefixOf (by simp) (by simp)]
      simp [replace_crlf_lfToCrlf t, hc]
    · have hp : ['\r', '\n'].isPrefixOf (c :: lfToCrlf t) = false := by
        have := head?_lfToCrlf_ne_lf t
        cases h : lfToCrlf t with
        | nil => simp [List.isPrefixOf]
        | cons d u =>
          rw [h] at this
          have hd : d ≠ '\n' := fun e => this (by rw [e]; rfl)
          simp [List.isPrefixOf, Ne.symm hd]
      rw [if_neg hc, List.singleton_append, replace_cons_of_not_isPrefixOf hp,
        replace_crlf_lfToCrlf t]

/-! ## One line -/

theorem rdropWhile_append_esc {path post : List Char} (hpost : esc ∉ post) :
    (path ++ esc :: post).rdropWhile (· != esc) = path ++ [esc] := by
  rw [← List.singleton_append, ← List.append_assoc, rdropWhile_append_of_forall
    (fun x hx => bne_iff_ne.mpr fun e => hpost (by rw [← e]; exact hx)),
    List.rdropWhile_concat_neg _ _ _ (by decide)]

theorem not_mem_lf_map_toBackslash {path : List Char} (h : '\n' ∉ path) :
    '\n' ∉ path.map toBackslash := by
  rw [List.mem_map]
  rintro ⟨c, hc, he⟩
  unfold toBackslash at he
  split at he
  · exact absurd he (by decide)
  · exact h (he ▸ hc)

theorem normalizer_map_toBackslash (path : List Char) :
    normalizer pathHighlight (path.map toBackslash) = normalizer pathHighlight path := by
  rw [normalizer, normalizer, replace_singleton, replace_singleton, List.map_map]
  congr 2
  apply List.map_congr_left
  intro c _
  unfold toBackslash
  by_cases h : c = '/' <;> simp [h]

/-- On one line the Windows separators are normalised away: `replaceAll` writes `/` wherever
the rendering wrote `\`. -/
theorem replaceAll_windowsLine {l : List Char} (hl : '\n' ∉ l) :
    replaceAll (windowsLine l) = replaceAll l := by
  unfold windowsLine
  split
  · rfl
  · next b r hs =>
    have hl' := eq_of_splitAtHighlight hs
    have hr : '\n' ∉ r := fun h => hl (by rw [hl']; exact List.mem_append_right _ h)
    rcases esc_not_mem_or_eq_append r with he | ⟨path, post, rfl, hpost⟩
    · have hnil : r.rdropWhile (· != esc) = [] :=
        List.rdropWhile_eq_nil_iff.mpr fun _ hx => bne_iff_ne.mpr fun e => he (e ▸ hx)
      simp only [hnil, List.dropLast_nil, List.map_nil, List.nil_append, List.length_nil,
        List.drop_zero, ← hl']
    · have hpath : '\n' ∉ path := fun h => hr (List.mem_append_left _ h)
      simp only [rdropWhile_append_esc hpost, List.dropLast_concat,
        List.drop_left]
      rw [replaceAll_of_splitAtHighlight_some (splitAtHighlight_append hs _),
        replaceAll_highlight_esc (not_mem_lf_map_toBackslash hpath) hpost,
        replaceAll_of_splitAtHighlight_some hs, replaceAll_highlight_esc hpath hpost,
        normalizer_map_toBackslash]

theorem windowsLine_not_mem_lf {l : List Char} (hl : '\n' ∉ l) : '\n' ∉ windowsLine l := by
  unfold windowsLine
  split
  · exact hl
  · next b r hs =>
    have hl' := eq_of_splitAtHighlight hs
    have hb : '\n' ∉ b := fun h => hl (by rw [hl']; simp [h])
    have hr : '\n' ∉ r := fun h => hl (by rw [hl']; exact List.mem_append_right _ h)
    simp only [List.mem_append, not_or]
    exact ⟨⟨hb, by decide⟩, not_mem_lf_map_toBackslash fun h =>
      hr ((List.rdropWhile_prefix _ _).subset ((List.dropLast_prefix _).subset h)),
      fun h => hr (List.drop_subset _ _ h)⟩

/-! ## The whole text -/

/-- **A snapshot recorded on Windows matches the same output recorded elsewhere.** -/
theorem sanitizeOutput_windowsRendering (s : List Char) :
    sanitizeOutput (windowsRendering s) = sanitizeOutput s := by
  have hsegs : ∀ l ∈ s.splitOn '\n', '\n' ∉ l := fun _ hl => not_mem_of_mem_splitOn hl
  have hne : (s.splitOn '\n').map windowsLine ≠ [] := by
    simpa using (List.splitOnP_ne_nil _ s : s.splitOn '\n' ≠ [])
  have hwin : ∀ l ∈ (s.splitOn '\n').map windowsLine, '\n' ∉ l := by
    simp only [List.mem_map]
    rintro _ ⟨l, hl, rfl⟩
    exact windowsLine_not_mem_lf (hsegs l hl)
  rw [sanitizeOutput, windowsRendering, sanitizedLines_eq, replace_crlf_lfToCrlf,
    normalizedLines_intercalate hne hwin, List.filterMap_map, sanitizeOutput_eq_lines]
  congr 1
  exact List.filterMap_congr fun l hl => by
    simp only [Function.comp, replaceAll_windowsLine (hsegs l hl)]

end Pavex.Snapshot
