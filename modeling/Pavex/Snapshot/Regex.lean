import Pavex.Str

/-!
# The path-normalisation regex of `sanitize_output`

`sanitize_output` rewrites every match of

    (?<prefix>\[ESC\[36;1;4m)(?<path>.*)ESC

(`ESC` the escape character, written literally in the source) with the `normalizer`
closure, which writes the `prefix` group, then the `path` group with its backslashes turned
into slashes, then a literal ESC.

For this pattern the regex crate's semantics come down to three facts. `.` is any character
but LF, so a match lies within one line. Matches are leftmost-first, so a match starts at the
first place where the prefix occurs with an ESC after it on the same line. `.*` is greedy, so
the path runs to the last ESC of that line. `replace_all` copies the text between matches and
resumes the search right after each match.

The trailing ESC belongs to the match but to no group; the normalizer writes it back after
the path, so a rewrite keeps every ESC of the line and changes only backslashes in the path.
The last section reads `replaceAll` on one line through the first prefix and the last ESC;
the platform and idempotence results are stated in those terms.
-/

namespace Pavex.Snapshot

open Str

/-- The escape character. -/
def esc : Char := '\x1b'

/-- The regex's `prefix` group: the terminal code that opens a highlighted path. -/
def pathHighlight : List Char := ['[', esc, '[', '3', '6', ';', '1', ';', '4', 'm']

/-- The rest of `r` up to its last ESC before the first LF, that ESC included; empty when
there is no such ESC. -/
def upToLastEsc (r : List Char) : List Char :=
  (r.takeWhile (· != '\n')).rdropWhile (· != esc)

/-- `(?<path>.*)ESC` matched at the start of `r`: the `path` group and the text after the
match. -/
def matchPath (r : List Char) : Option (List Char × List Char) :=
  if upToLastEsc r = [] then none
  else some ((upToLastEsc r).dropLast, r.drop (upToLastEsc r).length)

/-- `RE` matched at the start of `h`: the path group and the text after the match. -/
def matchAt (h : List Char) : Option (List Char × List Char) :=
  if pathHighlight.isPrefixOf h then matchPath (h.drop pathHighlight.length) else none

/-- The `normalizer` closure, `format!("{prefix}{path}ESC")`: the `prefix` group, then the
`path` group with every `\` replaced by `/`, then the ESC the match ended with. -/
def normalizer (pre path : List Char) : List Char := pre ++ replace path ['\\'] ['/'] ++ [esc]

theorem upToLastEsc_prefix_self (r : List Char) : upToLastEsc r <+: r :=
  (List.rdropWhile_prefix _ _).trans (List.takeWhile_prefix _)

theorem matchPath_suffix {r p a : List Char} (h : matchPath r = some (p, a)) : a <:+ r := by
  unfold matchPath at h
  split at h
  · cases h
  · cases h; exact List.drop_suffix _ _

theorem matchAt_suffix {h p a : List Char} (hm : matchAt h = some (p, a)) :
    a <:+ h.drop pathHighlight.length := by
  unfold matchAt at hm
  split at hm
  · exact matchPath_suffix hm
  · cases hm

theorem matchAt_length_lt {h p a : List Char} (hm : matchAt h = some (p, a)) :
    a.length < h.length := by
  have hp : pathHighlight.isPrefixOf h = true := by
    unfold matchAt at hm; split at hm <;> simp_all
  have hlen := (List.isPrefixOf_iff_prefix.mp hp).length_le
  have hsuf := (matchAt_suffix hm).length_le
  have : pathHighlight.length = 10 := rfl
  simp only [List.length_drop] at hsuf
  omega

/-- `RE.replace_all(output, normalizer)`: scan for the leftmost match, rewrite it, and go on
after it. -/
def replaceAll : List Char → List Char
  | [] => []
  | c :: cs =>
    match h : matchAt (c :: cs) with
    | some (path, after) => normalizer pathHighlight path ++ replaceAll after
    | none => c :: replaceAll cs
termination_by s => s.length
decreasing_by
  all_goals simp_wf
  exact matchAt_length_lt h

/-! ## Unfolding `replaceAll` -/

@[simp] theorem replaceAll_nil : replaceAll [] = [] := by rw [replaceAll]

theorem replaceAll_cons_of_some {c : Char} {cs path after : List Char}
    (h : matchAt (c :: cs) = some (path, after)) :
    replaceAll (c :: cs) = normalizer pathHighlight path ++ replaceAll after := by
  rw [replaceAll]; split <;> simp_all

theorem replaceAll_of_some {h path after : List Char} (hm : matchAt h = some (path, after)) :
    replaceAll h = normalizer pathHighlight path ++ replaceAll after := by
  cases h with
  | nil => simp [matchAt, pathHighlight, List.isPrefixOf] at hm
  | cons c cs => exact replaceAll_cons_of_some hm

theorem replaceAll_cons_of_none {c : Char} {cs : List Char} (h : matchAt (c :: cs) = none) :
    replaceAll (c :: cs) = c :: replaceAll cs := by
  rw [replaceAll]; split <;> simp_all

theorem esc_mem_of_isPrefixOf {h : List Char} (hp : pathHighlight.isPrefixOf h = true) :
    esc ∈ h :=
  (List.isPrefixOf_iff_prefix.mp hp).subset (by decide)

theorem matchAt_of_esc_not_mem {h : List Char} (he : esc ∉ h) : matchAt h = none := by
  unfold matchAt
  split
  · exact absurd (esc_mem_of_isPrefixOf ‹_›) he
  · rfl

/-- A text without ESC holds no match. -/
theorem replaceAll_eq_self : ∀ {t : List Char}, esc ∉ t → replaceAll t = t
  | [], _ => replaceAll_nil
  | c :: cs, h => by
    rw [replaceAll_cons_of_none (matchAt_of_esc_not_mem h),
      replaceAll_eq_self (fun hm => h (List.mem_cons_of_mem c hm))]

theorem replaceAll_pathHighlight : replaceAll pathHighlight = pathHighlight := by
  have h1 : matchAt ('[' :: esc :: ['[', '3', '6', ';', '1', ';', '4', 'm']) = none := by decide
  have h2 : matchAt (esc :: ['[', '3', '6', ';', '1', ';', '4', 'm']) = none := by decide
  show replaceAll ('[' :: esc :: ['[', '3', '6', ';', '1', ';', '4', 'm']) = _
  rw [replaceAll_cons_of_none h1, replaceAll_cons_of_none h2, replaceAll_eq_self (by decide)]
  rfl

theorem matchAt_subset {h p a : List Char} (hm : matchAt h = some (p, a)) : p ⊆ h ∧ a ⊆ h := by
  unfold matchAt matchPath at hm
  split at hm
  · split at hm
    · cases hm
    · cases hm
      exact ⟨fun x hx => List.drop_subset _ _ ((upToLastEsc_prefix_self _).subset
        ((List.dropLast_prefix _).subset hx)), fun x hx => List.drop_subset _ _
        (List.drop_subset _ _ hx)⟩
  · cases hm

/-! ## A match never crosses an LF -/

theorem rdropWhile_append_of_forall {p : Char → Bool} {t : List Char} (h : ∀ x ∈ t, p x)
    (l : List Char) : (l ++ t).rdropWhile p = l.rdropWhile p := by
  simp only [List.rdropWhile, List.reverse_append]
  rw [List.dropWhile_append_of_pos (by simpa using h)]

theorem upToLastEsc_append {u v : List Char} (hu : '\n' ∉ u)
    (hv : esc ∉ v.takeWhile (· != '\n')) : upToLastEsc (u ++ v) = upToLastEsc u := by
  have hu' : ∀ x ∈ u, (x != '\n') = true := fun x hx => bne_iff_ne.mpr fun e => hu (e ▸ hx)
  have hv' : ∀ x ∈ v.takeWhile (· != '\n'), (x != esc) = true := fun x hx =>
    bne_iff_ne.mpr fun e => hv (e ▸ hx)
  rw [upToLastEsc, upToLastEsc, List.takeWhile_append_of_pos hu', rdropWhile_append_of_forall hv',
    List.takeWhile_eq_self_iff.mpr hu']

theorem upToLastEsc_eq_nil {r : List Char} (h : esc ∉ r.takeWhile (· != '\n')) :
    upToLastEsc r = [] :=
  List.rdropWhile_eq_nil_iff.mpr fun _ hx => bne_iff_ne.mpr fun e => h (e ▸ hx)

theorem matchPath_append {u v : List Char} (hu : '\n' ∉ u)
    (hv : esc ∉ v.takeWhile (· != '\n')) :
    matchPath (u ++ v) = (matchPath u).map (fun pa => (pa.1, pa.2 ++ v)) := by
  have hk : (upToLastEsc u).length ≤ u.length := (upToLastEsc_prefix_self u).length_le
  simp only [matchPath, upToLastEsc_append hu hv]
  split
  · rfl
  · simp [List.drop_append_of_le_length hk]

/-- The text after the prefix, when the prefix straddles `u` and `v`, is a suffix of `v`
cut before `v`'s first LF. -/
theorem takeWhile_drop_sub {u v : List Char} (hlt : u.length < pathHighlight.length)
    (hp : pathHighlight <+: u ++ v) :
    ((u ++ v).drop pathHighlight.length).takeWhile (· != '\n') ⊆ v.takeWhile (· != '\n') := by
  have hpt : pathHighlight = u ++ v.take (pathHighlight.length - u.length) := calc
    pathHighlight = (u ++ v).take pathHighlight.length := List.prefix_iff_eq_take.mp hp
    _ = u ++ v.take (pathHighlight.length - u.length) := by
      rw [List.take_append_eq_append_take, List.take_of_length_le (by omega)]
  have hnl : ∀ x ∈ v.take (pathHighlight.length - u.length), (x != '\n') = true := by
    intro x hx
    exact (by decide : ∀ y ∈ pathHighlight, (y != '\n') = true) x
      (hpt ▸ List.mem_append_right u hx)
  rw [List.drop_append_eq_append_drop, List.drop_of_length_le (by omega), List.nil_append]
  conv_rhs => rw [← List.take_append_drop (pathHighlight.length - u.length) v,
    List.takeWhile_append_of_pos hnl]
  exact List.subset_append_right _ _

theorem matchAt_append {u v : List Char} (hu : '\n' ∉ u) (hv : esc ∉ v.takeWhile (· != '\n')) :
    matchAt (u ++ v) = (matchAt u).map (fun pa => (pa.1, pa.2 ++ v)) := by
  by_cases hpu : pathHighlight.isPrefixOf u = true
  · have hle := (List.isPrefixOf_iff_prefix.mp hpu).length_le
    have hpuv : pathHighlight.isPrefixOf (u ++ v) = true :=
      List.isPrefixOf_iff_prefix.mpr ((List.isPrefixOf_iff_prefix.mp hpu).trans
        (List.prefix_append u v))
    have hu' : '\n' ∉ u.drop pathHighlight.length := fun h => hu ((List.drop_suffix _ _).subset h)
    rw [matchAt, matchAt, if_pos hpuv, if_pos hpu, List.drop_append_of_le_length hle,
      matchPath_append hu' hv]
  · have hnone : matchAt u = none := by simp [matchAt, hpu]
    rw [hnone, Option.map_none', matchAt]
    split
    · next hpuv =>
      have hp := List.isPrefixOf_iff_prefix.mp hpuv
      have hlt : u.length < pathHighlight.length := by
        by_contra hge
        exact hpu (List.isPrefixOf_iff_prefix.mpr
          (List.prefix_of_prefix_length_le hp (List.prefix_append u v) (by omega)))
      simp only [matchPath,
        upToLastEsc_eq_nil (fun h => hv (takeWhile_drop_sub hlt hp h)), if_true]
    · rfl

/-- Rewriting commutes with cutting the text where the rest of the line holds no ESC. -/
theorem replaceAll_append {v : List Char} (hv : esc ∉ v.takeWhile (· != '\n')) :
    ∀ {u : List Char}, '\n' ∉ u → replaceAll (u ++ v) = replaceAll u ++ replaceAll v := by
  intro u
  induction u using replaceAll.induct with
  | case1 => simp
  | case2 c cs path after hm ih =>
    intro hu
    have hm' : matchAt (c :: (cs ++ v)) = some (path, after ++ v) := by
      rw [← List.cons_append, matchAt_append hu hv, hm]; rfl
    rw [List.cons_append, replaceAll_cons_of_some hm', replaceAll_cons_of_some hm,
      ih (fun h => hu ((matchAt_subset hm).2 h)), List.append_assoc]
  | case3 c cs hm ih =>
    intro hu
    have hm' : matchAt (c :: (cs ++ v)) = none := by
      rw [← List.cons_append, matchAt_append hu hv, hm]; rfl
    rw [List.cons_append, replaceAll_cons_of_none hm', replaceAll_cons_of_none hm,
      ih (fun h => hu (List.mem_cons_of_mem c h)), List.cons_append]

theorem replaceAll_append_lf {u : List Char} (hu : '\n' ∉ u) (rest : List Char) :
    replaceAll (u ++ '\n' :: rest) = replaceAll u ++ '\n' :: replaceAll rest := by
  rw [replaceAll_append (by simp) hu,
    replaceAll_cons_of_none (by simp [matchAt, pathHighlight, List.isPrefixOf])]

theorem replaceAll_append_of_esc_not_mem {u t : List Char} (hu : '\n' ∉ u) (ht : esc ∉ t) :
    replaceAll (u ++ t) = replaceAll u ++ t := by
  rw [replaceAll_append (fun h => ht (List.takeWhile_subset _ h)) hu, replaceAll_eq_self ht]

theorem not_mem_lf_normalizer {path : List Char} (h : '\n' ∉ path) :
    '\n' ∉ normalizer pathHighlight path := by
  rw [normalizer, replace_singleton, List.mem_append, List.mem_append, not_or, not_or]
  refine ⟨⟨by decide, fun hm => ?_⟩, by decide⟩
  obtain ⟨x, hx, hxe⟩ := List.mem_map.mp hm
  by_cases hb : x = '\\'
  · rw [if_pos hb] at hxe; exact absurd hxe (by decide)
  · rw [if_neg hb] at hxe; exact h (hxe ▸ hx)

theorem replaceAll_not_mem_lf : ∀ {u : List Char}, '\n' ∉ u → '\n' ∉ replaceAll u := by
  intro u
  induction u using replaceAll.induct with
  | case1 => simp
  | case2 c cs path after hm ih =>
    intro hu
    rw [replaceAll_cons_of_some hm, List.mem_append, not_or]
    exact ⟨not_mem_lf_normalizer fun h => hu ((matchAt_subset hm).1 h),
      ih fun h => hu ((matchAt_subset hm).2 h)⟩
  | case3 c cs hm ih =>
    intro hu
    rw [replaceAll_cons_of_none hm]
    simp only [List.mem_cons, not_or] at hu ⊢
    exact ⟨hu.1, ih hu.2⟩

/-! ## One line, through its first prefix and its last ESC -/

/-- The text before the first `pathHighlight` in `l`, and the text after it. -/
def splitAtHighlight : List Char → Option (List Char × List Char)
  | [] => none
  | c :: cs =>
    if pathHighlight.isPrefixOf (c :: cs) then some ([], (c :: cs).drop pathHighlight.length)
    else (splitAtHighlight cs).map fun (b, r) => (c :: b, r)

theorem eq_of_splitAtHighlight : ∀ {l b r : List Char}, splitAtHighlight l = some (b, r) →
    l = b ++ pathHighlight ++ r
  | [], _, _, h => by simp [splitAtHighlight] at h
  | c :: cs, b, r, h => by
    rw [splitAtHighlight] at h
    split at h
    · next hp =>
      cases h
      obtain ⟨t, ht⟩ := List.isPrefixOf_iff_prefix.mp hp
      rw [← ht, List.drop_left]; rfl
    · obtain ⟨⟨b', r'⟩, h', he⟩ := Option.map_eq_some'.mp h
      cases he
      rw [eq_of_splitAtHighlight h']; rfl

theorem isPrefixOf_append_of_length_le {w : List Char} (hl : pathHighlight.length ≤ w.length)
    (x : List Char) : pathHighlight.isPrefixOf (w ++ x) = pathHighlight.isPrefixOf w :=
  Bool.eq_iff_iff.mpr (by
    simp only [List.isPrefixOf_iff_prefix]
    exact ⟨fun h => List.prefix_of_prefix_length_le h (List.prefix_append w x) hl,
      fun h => h.trans (List.prefix_append w x)⟩)

theorem splitAtHighlight_highlight_append (r : List Char) :
    splitAtHighlight (pathHighlight ++ r) = some ([], r) := by
  have e : pathHighlight ++ r = '[' :: (pathHighlight.tail ++ r) := rfl
  rw [e, splitAtHighlight, ← e, if_pos (List.isPrefixOf_iff_prefix.mpr (List.prefix_append _ _)),
    List.drop_left]

/-- The first prefix stays the first whatever follows it. -/
theorem splitAtHighlight_append : ∀ {l b r : List Char}, splitAtHighlight l = some (b, r) →
    ∀ r', splitAtHighlight (b ++ pathHighlight ++ r') = some (b, r')
  | [], _, _, h => by simp [splitAtHighlight] at h
  | c :: cs, b, r, h => by
    intro r'
    rw [splitAtHighlight] at h
    split at h
    · cases h
      exact splitAtHighlight_highlight_append r'
    · next hp =>
      obtain ⟨⟨b', r''⟩, h', he⟩ := Option.map_eq_some'.mp h
      cases he
      have hcs := eq_of_splitAtHighlight h'
      have hlen : pathHighlight.length ≤ (c :: (b' ++ pathHighlight)).length := by
        simp only [List.length_cons, List.length_append]; omega
      have hp' : pathHighlight.isPrefixOf (c :: (b' ++ pathHighlight ++ r')) = false := by
        rw [← List.cons_append, isPrefixOf_append_of_length_le hlen,
          ← isPrefixOf_append_of_length_le hlen r, List.cons_append, ← hcs]
        exact Bool.eq_false_iff.mpr hp
      rw [List.cons_append, List.cons_append, splitAtHighlight, if_neg (Bool.eq_false_iff.mp hp'),
        splitAtHighlight_append h' r']
      rfl

theorem replaceAll_of_splitAtHighlight_none : ∀ {l : List Char}, splitAtHighlight l = none →
    replaceAll l = l
  | [], _ => replaceAll_nil
  | c :: cs, h => by
    rw [splitAtHighlight] at h
    split at h
    · cases h
    · next hp =>
      have hm : matchAt (c :: cs) = none := by simp [matchAt, hp]
      rw [replaceAll_cons_of_none hm, replaceAll_of_splitAtHighlight_none (by simpa using h)]

/-- Before the first prefix nothing matches. -/
theorem replaceAll_of_splitAtHighlight_some : ∀ {l b r : List Char},
    splitAtHighlight l = some (b, r) → replaceAll l = b ++ replaceAll (pathHighlight ++ r)
  | [], _, _, h => by simp [splitAtHighlight] at h
  | c :: cs, b, r, h => by
    have hl := eq_of_splitAtHighlight h
    rw [splitAtHighlight] at h
    split at h
    · cases h
      rw [hl]; rfl
    · next hp =>
      obtain ⟨⟨b', r'⟩, h', he⟩ := Option.map_eq_some'.mp h
      cases he
      have hm : matchAt (c :: cs) = none := by simp [matchAt, hp]
      rw [replaceAll_cons_of_none hm, replaceAll_of_splitAtHighlight_some h']
      rfl

/-- A prefix with no ESC after it is left as it is. -/
theorem replaceAll_highlight_of_esc_not_mem {r : List Char} (h : esc ∉ r) :
    replaceAll (pathHighlight ++ r) = pathHighlight ++ r := by
  rw [replaceAll_append (fun hm => h (List.takeWhile_subset _ hm)) (by decide),
    replaceAll_pathHighlight, replaceAll_eq_self h]

theorem matchAt_highlight_esc {path post : List Char} (hpath : '\n' ∉ path) (hpost : esc ∉ post) :
    matchAt (pathHighlight ++ (path ++ esc :: post)) = some (path, post) := by
  have hnl : ∀ x ∈ path, (x != '\n') = true := fun x hx => bne_iff_ne.mpr fun e => hpath (e ▸ hx)
  have hup : upToLastEsc (path ++ esc :: post) = path ++ [esc] := by
    rw [upToLastEsc, List.takeWhile_append_of_pos hnl, List.takeWhile_cons_of_pos (by decide),
      ← List.singleton_append, ← List.append_assoc, rdropWhile_append_of_forall
        (fun x hx => bne_iff_ne.mpr fun e => hpost (by rw [← e]; exact List.takeWhile_subset _ hx)),
      List.rdropWhile_concat_neg _ _ _ (by decide)]
  rw [matchAt, if_pos (List.isPrefixOf_iff_prefix.mpr (List.prefix_append _ _)), List.drop_left,
    matchPath, hup, if_neg (by simp)]
  simp

/-- A highlighted path closed by the last ESC of its line: the path is normalised, and the
ESC is written back after it. -/
theorem replaceAll_highlight_esc {path post : List Char} (hpath : '\n' ∉ path)
    (hpost : esc ∉ post) :
    replaceAll (pathHighlight ++ (path ++ esc :: post)) = normalizer pathHighlight path ++ post := by
  rw [replaceAll_of_some (matchAt_highlight_esc hpath hpost), replaceAll_eq_self hpost]

/-- Either a text has no ESC, or it splits at its last ESC. -/
theorem esc_not_mem_or_eq_append : ∀ r : List Char,
    esc ∉ r ∨ ∃ path post, r = path ++ esc :: post ∧ esc ∉ post
  | [] => .inl (List.not_mem_nil _)
  | c :: r => by
    rcases esc_not_mem_or_eq_append r with h | ⟨path, post, rfl, h⟩
    · by_cases hc : c = esc
      · exact .inr ⟨[], r, by rw [hc]; rfl, h⟩
      · exact .inl (by simp [Ne.symm hc, h])
    · exact .inr ⟨c :: path, post, rfl, h⟩

end Pavex.Snapshot
