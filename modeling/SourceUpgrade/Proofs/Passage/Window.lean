import Mathlib.Algebra.Order.Floor.Div
import SourceUpgrade.Passage.Window

namespace SourceUpgrade.Passage

/-!
# Where windows lie

The windows of a text lie at equal distances. `WindowSize.start` and `WindowSize.stop` give the
positions of each, `windows_eq_map` says that windows are what stands there, and `WindowSize.Cuts`
has what this means: how many there are, what neighbours share, and that they put together to the
text again. The sums that are formed on the way stay below twice the length of the text, so that
machine words do not run over.
-/

namespace WindowSize

/-- The most characters of a window; there is room for one at least. -/
def width (size : WindowSize) : Nat :=
  max 1 size.limit

/-- How many characters after its predecessor a window begins. -/
def step (size : WindowSize) : Nat :=
  max 1 (size.width - size.overlap)

/-- How many characters a window has in common with its predecessor. -/
def shared (size : WindowSize) : Nat :=
  min size.overlap (size.width - 1)

/-- The position at which a window begins. -/
def start (size : WindowSize) (index : Nat) : Nat :=
  index * size.step

/-- The position at which a window ends in a text of some length. -/
def stop (size : WindowSize) (length index : Nat) : Nat :=
  min (size.start index + size.width) length

/-- What stands in a text between the positions of a window. -/
def window (size : WindowSize) (body : List Char) (index : Nat) : List Char :=
  body.extract (size.start index) (size.stop body.length index)

/-- How many windows come after the first one. -/
def later (size : WindowSize) (length : Nat) : Nat :=
  (length - size.width) ⌈/⌉ size.step

variable {size : WindowSize} {length index : Nat}

theorem step_pos (size : WindowSize) : 0 < size.step :=
  Nat.lt_of_lt_of_le Nat.zero_lt_one (Nat.le_max_left _ _)

/-- What two neighbours share is what is left of a window after the step to the next one. -/
theorem step_add_shared (size : WindowSize) : size.step + size.shared = size.width := by
  have room : 1 ≤ size.width := Nat.le_max_left _ _
  unfold step shared
  omega

theorem start_succ (size : WindowSize) (index : Nat) :
    size.start (index + 1) = size.start index + size.step :=
  Nat.succ_mul index size.step

/-- A window is the last one or comes after it exactly if the text ends within its room. -/
theorem later_le_iff : size.later length ≤ index ↔ length ≤ size.start index + size.width := by
  rw [later, ceilDiv_le_iff_le_mul size.step_pos, start, Nat.mul_comm, Nat.sub_le_iff_le_add]

/-- A window before the last one has all its room within the text, and more follows. -/
theorem lt_of_lt_later (before : index < size.later length) :
    size.start index + size.width < length :=
  Nat.lt_of_not_le (mt later_le_iff.mpr (Nat.not_le_of_lt before))

theorem stop_of_lt_later (before : index < size.later length) :
    size.stop length index = size.start index + size.width :=
  Nat.min_eq_left (lt_of_lt_later before).le

/-- The last window ends with the text. -/
theorem stop_later (size : WindowSize) (length : Nat) :
    size.stop length (size.later length) = length :=
  Nat.min_eq_right (later_le_iff.mp (Nat.le_refl _))

/-- A window begins as many characters before its predecessor ends as both share. -/
theorem start_succ_add_shared (before : index < size.later length) :
    size.start (index + 1) + size.shared = size.stop length index := by
  rw [stop_of_lt_later before, start_succ, Nat.add_assoc, step_add_shared]

/-- Every window ends after its predecessor. -/
theorem stop_lt_stop_succ (before : index < size.later length) :
    size.stop length index < size.stop length (index + 1) := by
  have inside : size.start index + size.width < length := lt_of_lt_later before
  have advances : 0 < size.step := size.step_pos
  rw [stop_of_lt_later before, stop, start_succ]
  omega

/-- Every window begins before the end of a text that has characters. -/
theorem start_lt_length
    (nonempty : 0 < length)
    (notAfter : index ≤ size.later length) :
    size.start index < length := by
  cases index with
  | zero =>
      rw [start, Nat.zero_mul]
      exact nonempty
  | succ index =>
      have inside : size.start index + size.width < length := lt_of_lt_later notAfter
      have parts : size.step + size.shared = size.width := size.step_add_shared
      rw [start_succ]
      omega

end WindowSize

/-! ## Windows by their positions -/

section

variable {size : WindowSize} {body : List Char}

/-- The loop stops with the window that ends with the text. -/
theorem windowsFrom_last (nonempty : 0 < body.length) :
    windowsFrom body.toArray size.width size.overlap (size.start (size.later body.length)) =
      [size.window body (size.later body.length)] := by
  have inside : size.start (size.later body.length) < body.toArray.size :=
    WindowSize.start_lt_length nonempty (Nat.le_refl _)
  have ends :
      min (size.start (size.later body.length) + size.width) body.toArray.size =
        body.toArray.size :=
    size.stop_later body.length
  rw [windowsFrom, if_pos inside]
  dsimp only
  rw [if_pos ends, Array.toList_extract]
  rfl

/-- Before that window, the loop goes on with the next one. -/
theorem windowsFrom_before
    {index : Nat}
    (before : index < size.later body.length) :
    windowsFrom body.toArray size.width size.overlap (size.start index) =
      size.window body index ::
        windowsFrom body.toArray size.width size.overlap (size.start (index + 1)) := by
  have more : size.start index + size.width < body.length := WindowSize.lt_of_lt_later before
  have inside : size.start index < body.toArray.size :=
    Nat.lt_of_le_of_lt (Nat.le_add_right _ _) more
  have within :
      min (size.start index + size.width) body.toArray.size = size.start index + size.width :=
    Nat.min_eq_left more.le
  have goesOn : size.start index + size.width ≠ body.toArray.size := Nat.ne_of_lt more
  have next :
      max (size.start index + size.width - size.overlap) (size.start index + 1) =
        size.start (index + 1) := by
    rw [WindowSize.start_succ, WindowSize.step]
    omega
  rw [windowsFrom, if_pos inside]
  dsimp only
  rw [within, if_neg goesOn, next, Array.toList_extract, WindowSize.window,
    WindowSize.stop_of_lt_later before]

/-- The windows from one of them on lie at the positions of this and of all later ones. -/
theorem windowsFrom_start
    (nonempty : 0 < body.length)
    {index left : Nat}
    (rest : index + left = size.later body.length) :
    windowsFrom body.toArray size.width size.overlap (size.start index) =
      (List.range' index (left + 1)).map (size.window body) := by
  induction left generalizing index with
  | zero =>
      obtain rfl : index = size.later body.length := rest
      exact windowsFrom_last nonempty
  | succ left inductionHypothesis =>
      have before : index < size.later body.length := by omega
      rw [windowsFrom_before before, inductionHypothesis (by omega)]
      rfl

/-- The windows of a text are what stands at their positions in the trimmed text. -/
theorem windows_eq_map (size : WindowSize) (text : List Char) :
    windows size text =
      (List.range (size.later (Text.trim text).length + 1)).map
        (size.window (Text.trim text)) := by
  have sameWidth : max size.limit 1 = size.width := Nat.max_comm _ _
  unfold windows
  dsimp only
  rw [sameWidth]
  generalize Text.trim text = body
  by_cases short : body.length ≤ size.width
  · have alone : size.later body.length = 0 :=
      Nat.le_zero.mp (WindowSize.later_le_iff.mpr (Nat.le_add_left_of_le short))
    have whole : size.window body 0 = body := by
      have ends : size.stop body.length 0 = body.length := alone ▸ size.stop_later body.length
      rw [WindowSize.window, ends, WindowSize.start, Nat.zero_mul]
      exact List.take_length
    rw [if_pos short, alone]
    exact congrArg (fun window => [window]) whole.symm
  · have nonempty : 0 < body.length := by omega
    have atStart : size.start 0 = 0 := Nat.zero_mul _
    rw [if_neg short, List.range_eq_range', ← windowsFrom_start nonempty (Nat.zero_add _), atStart]

end

/-! ## Putting windows together -/

/-- The text of windows of which each begins with some characters of its predecessor. -/
def stitch (shared : Nat) : List (List Char) → List Char
  | [] => []
  | first :: later => first ++ later.flatMap (List.drop shared)

theorem stitch_concat
    {windows : List (List Char)}
    (nonempty : windows ≠ [])
    (shared : Nat)
    (last : List Char) :
    stitch shared (windows ++ [last]) = stitch shared windows ++ last.drop shared := by
  obtain ⟨first, later, rfl⟩ := List.exists_cons_of_ne_nil nonempty
  simp [stitch]

/-- The windows up to one of them put together to the text up to the end of it. -/
theorem stitch_windows_upTo
    {size : WindowSize}
    {body : List Char}
    {index : Nat}
    (notAfter : index ≤ size.later body.length) :
    stitch size.shared ((List.range (index + 1)).map (size.window body)) =
      body.take (size.stop body.length index) := by
  induction index with
  | zero =>
      simp [stitch, WindowSize.window, WindowSize.start]
  | succ index inductionHypothesis =>
      have before : index < size.later body.length := notAfter
      have added :
          (size.window body (index + 1)).drop size.shared =
            (body.drop (size.stop body.length index)).take
              (size.stop body.length (index + 1) - size.stop body.length index) := by
        rw [← WindowSize.start_succ_add_shared before, WindowSize.window, List.drop_take,
          List.drop_drop, Nat.sub_sub]
      have parts :
          size.stop body.length index +
              (size.stop body.length (index + 1) - size.stop body.length index) =
            size.stop body.length (index + 1) :=
        Nat.add_sub_cancel' (WindowSize.stop_lt_stop_succ before).le
      rw [List.range_succ, List.map_append, List.map_singleton, stitch_concat (by simp),
        inductionHypothesis before.le, added, ← List.take_add, parts]

/-! ## Machine words -/

/-- The windows of a text from a position on; nothing as soon as a sum reaches the bound. -/
def windowsFromBelow?
    (bound : Nat)
    (text : Array Char)
    (limit overlap start : Nat) :
    Option (List (List Char)) :=
  if start < text.size then
    if bound ≤ start + limit then none
    else
      let stop := min (start + limit) text.size
      let window := (text.extract start stop).toList
      if stop = text.size then some [window]
      else if bound ≤ start + 1 then none
      else
        (windowsFromBelow? bound text limit overlap (max (stop - overlap) (start + 1))).map
          (window :: ·)
  else
    some []
termination_by text.size - start
decreasing_by omega

/-- The windows of a trimmed text, computed with words that hold numbers below a bound. -/
def windowsBelow? (bound : Nat) (size : WindowSize) (text : List Char) :
    Option (List (List Char)) :=
  let body := Text.trim text
  let limit := max size.limit 1
  if body.length ≤ limit then some [body]
  else windowsFromBelow? bound body.toArray limit size.overlap 0

/-- No sum reaches a bound of twice the length of a text that is longer than the limit. -/
theorem windowsFromBelow?_eq_some
    {bound limit : Nat}
    {text : Array Char}
    (long : limit < text.size)
    (room : 2 * text.size ≤ bound)
    (overlap start : Nat) :
    windowsFromBelow? bound text limit overlap start =
      some (windowsFrom text limit overlap start) := by
  fun_induction windowsFrom text limit overlap start with
  | case1 start inside stop window ends =>
      have sumFits : ¬ bound ≤ start + limit := by omega
      rw [windowsFromBelow?, if_pos inside, if_neg sumFits]
      dsimp only
      rw [if_pos ends]
  | case2 start inside stop window goesOn inductionHypothesis =>
      have sumFits : ¬ bound ≤ start + limit := by omega
      have nextFits : ¬ bound ≤ start + 1 := by omega
      rw [windowsFromBelow?, if_pos inside, if_neg sumFits]
      dsimp only
      rw [if_neg goesOn, if_neg nextFits, inductionHypothesis]
      rfl
  | case3 start outside =>
      rw [windowsFromBelow?, if_neg outside]

/-- A text that takes at most half of what words can count is cut without running over. -/
theorem windowsBelow?_eq_some
    {bound : Nat}
    (size : WindowSize)
    {text : List Char}
    (room : 2 * (Text.trim text).length ≤ bound) :
    windowsBelow? bound size text = some (windows size text) := by
  unfold windowsBelow? windows
  dsimp only
  split
  · rfl
  · rename_i long
    exact windowsFromBelow?_eq_some (Nat.lt_of_not_le long) room size.overlap 0

/-! ## What windows are -/

/-- How the windows of a text relate to it. -/
structure WindowSize.Cuts
    (size : WindowSize)
    (body : List Char)
    (windows : List (List Char)) :
    Prop where
  whole : body.length ≤ size.width → windows = [body]
  count :
    size.width < body.length →
      windows.length = (body.length - size.width) ⌈/⌉ size.step + 1
  placed :
    ∀ (index : Nat) (inside : index < windows.length),
      windows[index] =
        body.extract (index * size.step) (min (index * size.step + size.width) body.length)
  fits : ∀ window ∈ windows, window.length ≤ size.width
  blank : [] ∈ windows ↔ body = []
  overlaps :
    ∀ index,
      index + 1 < windows.length →
        size.start (index + 1) + min size.overlap (size.width - 1) = size.stop body.length index
  advances :
    ∀ index,
      index + 1 < windows.length →
        size.start index < size.start (index + 1) ∧
          size.stop body.length index < size.stop body.length (index + 1)
  ends : size.stop body.length (windows.length - 1) = body.length
  stitched : stitch size.shared windows = body

/-- The windows at their positions cut a text. -/
theorem cuts_map_window (size : WindowSize) (body : List Char) :
    size.Cuts body ((List.range (size.later body.length + 1)).map (size.window body)) where
  whole short := by
    have alone : size.later body.length = 0 :=
      Nat.le_zero.mp (WindowSize.later_le_iff.mpr (Nat.le_add_left_of_le short))
    have ends : size.stop body.length 0 = body.length := alone ▸ size.stop_later body.length
    simp [alone, WindowSize.window, ends, WindowSize.start]
  count _ := by
    rw [List.length_map, List.length_range, WindowSize.later]
  placed index inside := by
    rw [List.getElem_map, List.getElem_range]
    rfl
  fits := by
    intro window member
    obtain ⟨index, -, rfl⟩ := List.mem_map.mp member
    simp only [WindowSize.window, WindowSize.stop, List.length_take]
    omega
  blank := by
    constructor
    · intro member
      obtain ⟨index, within, noneLeft⟩ := List.mem_map.mp member
      by_contra notBlank
      have inside : size.start index < body.length :=
        WindowSize.start_lt_length (List.length_pos_iff.mpr notBlank)
          (Nat.le_of_lt_succ (List.mem_range.mp within))
      have room : 1 ≤ size.width := Nat.le_max_left _ _
      have noLength := congrArg List.length noneLeft
      simp only [WindowSize.window, WindowSize.stop, List.length_take, List.length_drop,
        List.length_nil] at noLength
      omega
    · rintro rfl
      exact List.mem_map.mpr ⟨0, List.mem_range.mpr (Nat.succ_pos _), by simp [WindowSize.window]⟩
  overlaps index inside := by
    rw [List.length_map, List.length_range] at inside
    exact WindowSize.start_succ_add_shared (Nat.lt_of_succ_lt_succ inside)
  advances index inside := by
    rw [List.length_map, List.length_range] at inside
    refine ⟨?_, WindowSize.stop_lt_stop_succ (Nat.lt_of_succ_lt_succ inside)⟩
    rw [WindowSize.start_succ]
    exact Nat.lt_add_of_pos_right size.step_pos
  ends := by
    rw [List.length_map, List.length_range]
    exact size.stop_later body.length
  stitched := by
    rw [stitch_windows_upTo (Nat.le_refl _), size.stop_later, List.take_length]

/--
The windows of a string cut its trimmed text at equal distances, whatever their size and overlap
are, and they are found with machine words of any kind that count twice the characters of the text.
-/
theorem windowStrings_cut (size : WindowSize) (text : String) :
    size.Cuts (Text.trimString text).toList ((windowStrings size text).map String.toList) ∧
      ∀ bound,
        2 * (Text.trimString text).length ≤ bound →
          (windowsBelow? bound size text.toList).map (List.map String.ofList) =
            some (windowStrings size text) := by
  have body : (Text.trimString text).toList = Text.trim text.toList := String.toList_ofList
  have asLists : (windowStrings size text).map String.toList = windows size text.toList := by
    simp [windowStrings]
  constructor
  · rw [body, asLists, windows_eq_map]
    exact cuts_map_window size _
  · intro bound room
    rw [← String.length_toList, body] at room
    rw [windowsBelow?_eq_some size room]
    rfl

/-- An overlap beyond the limit moves each window on by one character; words have 64 bits. -/
theorem windowStrings_cut_wide_overlap :
    2 * (Text.trimString " abcdef\n").length ≤ 2 ^ 64 ∧
      (windowsBelow? (2 ^ 64) ⟨2, 2 ^ 64 - 1⟩ " abcdef\n".toList).map (List.map String.ofList) =
        some (windowStrings ⟨2, 2 ^ 64 - 1⟩ " abcdef\n") ∧
        windowStrings ⟨2, 2 ^ 64 - 1⟩ " abcdef\n" = ["ab", "bc", "cd", "de", "ef"] := by
  have room : 2 * (Text.trimString " abcdef\n").length ≤ 2 ^ 64 := by
    decide +kernel
  obtain ⟨-, computed⟩ := windowStrings_cut ⟨2, 2 ^ 64 - 1⟩ " abcdef\n"
  refine ⟨room, computed _ room, ?_⟩
  decide +kernel

end SourceUpgrade.Passage
