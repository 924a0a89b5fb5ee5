import Asm16.Memory.Cells
import Mathlib.Tactic.Lemma

/-!
# Windows into memory

A window shows rows of sixteen cells from a start that is moved into memory.  Its rows are the
pieces between boundaries that never go back, so side by side they are the piece between the first
boundary and the last (`flatten_bytes`).  A window that fits has every boundary inside memory; one
that does not begins at the front, and its last boundary is behind the end.

* `Clamped` — the point of a range that is closest to another, which is where a window starts.
* `Shows` — whole rows of cells, one after the other.

`shows_of_fits` and `flatten_of_not_fits` say which cells a window has.
-/

namespace Asm16

namespace Cells

/-! ## Pieces of memory -/

lemma bytes_append (m : Cells) (start a b : Nat) :
    m.bytes start a ++ m.bytes (start + a) b = m.bytes start (a + b) := by
  rw [bytes, bytes, bytes, ← List.map_append, ← List.range'_append_1]

lemma getElem?_bytes (m : Cells) (start : Nat) {c n : Nat} (hc : c < n) :
    (m.bytes start n)[c]? = some (m.byte (start + c)) := by
  rw [bytes, List.getElem?_map, List.getElem?_range' hc, Nat.one_mul, Option.map_some]

lemma slice_natCast (m : Cells) (a b : Nat) :
    m.slice a b = m.bytes (min a m.size) (min b m.size - min a m.size) := by
  simp only [slice, position, Int.toNat_natCast]
  rw [if_neg (by omega), if_neg (by omega)]

lemma slice_of_le (m : Cells) {a b : Nat} (hb : b ≤ m.size) (hab : a ≤ b) :
    m.slice a b = m.bytes a (b - a) := by
  rw [slice_natCast, Nat.min_eq_left hb, Nat.min_eq_left (Nat.le_trans hab hb)]

/-- **Pieces of memory side by side are one piece**, wherever their boundaries are. -/
lemma flatten_bytes (m : Cells) (bound : Nat → Nat) (hbound : ∀ k, bound k ≤ bound (k + 1))
    (n : Nat) :
    ((List.range n).map fun k => m.bytes (bound k) (bound (k + 1) - bound k)).flatten =
      m.bytes (bound 0) (bound n - bound 0) := by
  have hfront : ∀ n, bound 0 ≤ bound n := by
    intro n
    induction n with
    | zero => exact Nat.le_refl _
    | succ n ih => exact Nat.le_trans ih (hbound n)
  induction n with
  | zero => rw [Nat.sub_self]; rfl
  | succ n ih =>
      have hlast : bound n = bound 0 + (bound n - bound 0) := by have := hfront n; omega
      have hwhole : bound (n + 1) - bound 0 =
          (bound n - bound 0) + (bound (n + 1) - bound n) := by
        have := hfront n
        have := hbound n
        omega
      rw [List.range_succ, List.map_append, List.flatten_append, ih, List.map_singleton,
        List.flatten_singleton, hwhole, ← bytes_append, ← hlast]

/-! ## The start of a window -/

/-- `t` is the point between 0 and `last` that is closest to `s`. -/
structure Clamped (s last t : Int) : Prop where
  inside : 0 ≤ t ∧ t ≤ last
  below : s ≤ 0 → t = 0
  above : last ≤ s → t = last
  within : 0 ≤ s → s ≤ last → t = s

lemma clamped_windowStart (m : Cells) (start : Int) {rows : Int} (h : rows * 16 ≤ m.size) :
    Clamped start (m.size - rows * 16) (m.windowStart start rows) := by
  constructor <;> simp only [windowStart, rowWidth] <;> omega

lemma windowStart_windowStart (m : Cells) (start rows : Int) :
    m.windowStart (m.windowStart start rows) rows = m.windowStart start rows := by
  simp only [windowStart]
  omega

lemma windowStart_nonneg (m : Cells) (start rows : Int) : 0 ≤ m.windowStart start rows :=
  Int.le_max_left 0 _

lemma windowStart_of_lt (m : Cells) (start : Int) {rows : Int} (h : m.size < rows * 16) :
    m.windowStart start rows = 0 := by
  simp only [windowStart, rowWidth]
  omega

/-! ## The rows of a window -/

/-- The first cell of a window. -/
def windowFirst (m : Cells) (start rows : Int) : Nat := (m.windowStart start rows).toNat

lemma windowFirst_cast (m : Cells) (start rows : Int) :
    (m.windowFirst start rows : Int) = m.windowStart start rows :=
  Int.toNat_of_nonneg (m.windowStart_nonneg start rows)

lemma rows_window (m : Cells) (start rows : Int) :
    (m.window start rows).rows = (List.range rows.toNat).map fun k =>
      m.slice ((m.windowFirst start rows + k * 16 : Nat) : Int)
        ((m.windowFirst start rows + (k + 1) * 16 : Nat) : Int) := by
  simp only [window, ← windowFirst_cast, rowWidth]
  push_cast
  rfl

lemma flatten_rows_window (m : Cells) (start rows : Int) :
    (m.window start rows).rows.flatten =
      m.slice (m.windowFirst start rows)
        ((m.windowFirst start rows + rows.toNat * 16 : Nat) : Int) := by
  have hflat := flatten_bytes m (fun k => min (m.windowFirst start rows + k * 16) m.size)
    (fun k => by omega) rows.toNat
  rw [rows_window]
  simp only [slice_natCast]
  simpa using hflat

/-- A row of a window that fits is whole. -/
lemma getElem?_rows_window (m : Cells) (start : Int) {rows : Int} (h : rows * 16 ≤ m.size) {r : Nat}
    (hr : r < rows.toNat) :
    (m.window start rows).rows[r]? = some (m.bytes (m.windowFirst start rows + r * 16) 16) := by
  have hlast := (m.clamped_windowStart start h).inside.2
  rw [← windowFirst_cast] at hlast
  rw [rows_window, List.getElem?_map, List.getElem?_range hr, Option.map_some,
    slice_of_le m (by omega) (by omega)]
  congr 2
  omega

/-- `n` rows of sixteen cells, from the cell `first` on. -/
structure Shows (m : Cells) (first : Nat) (n : Int) (rows : List (List Byte)) : Prop where
  count : (rows.length : Int) = n
  width : ∀ row ∈ rows, row.length = 16
  cell : ∀ r c : Nat, r < rows.length → c < 16 →
    (rows[r]?.bind fun row => row[c]?) = some (m.byte (first + 16 * r + c))

/-- **A window that fits shows whole rows** from its start on. -/
lemma shows_of_fits (m : Cells) (start : Int) {rows : Int} (hrows : 0 ≤ rows)
    (h : rows * 16 ≤ m.size) :
    Shows m (m.windowFirst start rows) rows (m.window start rows).rows := by
  have hlength : (m.window start rows).rows.length = rows.toNat := by
    rw [rows_window, List.length_map, List.length_range]
  constructor
  case count => rw [hlength, Int.toNat_of_nonneg hrows]
  case width =>
    intro row hrow
    obtain ⟨r, hr⟩ := List.mem_iff_getElem?.1 hrow
    have hlt : r < rows.toNat := hlength ▸ (List.getElem?_eq_some_iff.1 hr).1
    rw [getElem?_rows_window m start h hlt, Option.some.injEq] at hr
    rw [← hr, length_bytes]
  case cell =>
    intro r c hr hc
    rw [hlength] at hr
    rw [getElem?_rows_window m start h hr, Option.bind_some, getElem?_bytes m _ hc,
      Nat.mul_comm r 16]

/-- **A window that does not fit shows every cell once.** -/
lemma flatten_of_not_fits (m : Cells) (start : Int) {rows : Int} (h : m.size < rows * 16) :
    (m.window start rows).rows.flatten = (List.range m.size).map m.byte := by
  have hfirst : m.windowFirst start rows = 0 := by
    rw [windowFirst, windowStart_of_lt m start h, Int.toNat_zero]
  have hlast : m.size ≤ 0 + rows.toNat * 16 := by omega
  rw [flatten_rows_window, hfirst, slice_natCast, Nat.min_eq_right hlast, Nat.zero_min,
    Nat.sub_zero, bytes, ← List.range_eq_range']

end Cells

end Asm16
