import LuomuLibpcap.Address
import Mathlib.Data.Nat.Digits

/-!
# The Debug text of a MAC address

`fmt::Debug for MacAddr` writes each of the six bytes with `format!("{:02x}", b)` and joins them with `:`.
`{:02x}` is the lower-case hexadecimal digits of the byte padded with `0` to two (`hex02_data`), so the text is
seventeen characters, `xx:xx:xx:xx:xx:xx`.  No byte's digits contain `:`, so splitting the text at `:` gives the
six pairs of digits back, and `ofDebug` reads the address from them (`fmt_spec`): two addresses with the same
text are the same address.
-/

namespace LuomuLibpcap

/-! ### Hexadecimal digits -/

/-- `format!("{:02x}", b)`: the lower-case hexadecimal digits of `b`, padded with `0` to two. -/
def hex02 (b : UInt8) : String :=
  let digits := Nat.toDigits 16 b.toNat
  ⟨List.replicate (2 - digits.length) '0' ++ digits⟩

/-- The value of a lower-case hexadecimal digit. -/
def hexValue (c : Char) : Option Nat := (List.range 16).find? (Nat.digitChar · == c)

/-- Two hexadecimal digits read as a byte. -/
def readByte : List Char → Option UInt8
  | [hi, lo] => do
    let h ← hexValue hi
    let l ← hexValue lo
    pure (UInt8.ofNat (16 * h + l))
  | _ => none

theorem digitChar_ne_colon : ∀ d < 16, Nat.digitChar d ≠ ':' := by decide

theorem hexValue_digitChar : ∀ d < 16, hexValue (Nat.digitChar d) = some d := by decide

/-- The two hexadecimal digits of a byte, high and low, are below sixteen. -/
theorem digits_lt (b : UInt8) : b.toNat / 16 < 16 ∧ b.toNat % 16 < 16 := by
  have : b.toNat < 256 := b.toNat_lt_size
  omega

/-- `{:02x}` of a byte is its two hexadecimal digits, the high one first. -/
theorem hex02_data (b : UInt8) :
    (hex02 b).data = [Nat.digitChar (b.toNat / 16), Nat.digitChar (b.toNat % 16)] := by
  simp only [hex02, Nat.toDigits]
  rcases Nat.lt_or_ge b.toNat 16 with h | h
  · simp [Nat.toDigitsCore, Nat.div_eq_of_lt h, Nat.mod_eq_of_lt h, Nat.digitChar]
  · have hhi := (digits_lt b).1
    obtain ⟨n, hn⟩ : ∃ n, b.toNat = n + 1 := ⟨b.toNat - 1, by omega⟩
    simp [Nat.toDigitsCore, hn, show (n + 1) / 16 ≠ 0 by omega, show (n + 1) / 16 / 16 = 0 by omega,
      show (n + 1) / 16 % 16 = (n + 1) / 16 by omega]

theorem colon_not_mem_hex02 (b : UInt8) : ':' ∉ (hex02 b).data := by
  simp only [hex02_data, List.mem_cons, List.not_mem_nil, or_false, not_or]
  exact ⟨(digitChar_ne_colon _ (digits_lt b).1).symm, (digitChar_ne_colon _ (digits_lt b).2).symm⟩

theorem readByte_hex02 (b : UInt8) : readByte (hex02 b).data = some b := by
  rw [hex02_data, readByte, hexValue_digitChar _ (digits_lt b).1, hexValue_digitChar _ (digits_lt b).2]
  exact congrArg some (UInt8.toNat.inj (by rw [Nat.div_add_mod, UInt8.toNat_ofNat_of_lt b.toNat_lt_size]))

/-! ### The text -/

namespace MacAddr

/-- `fmt::Debug for MacAddr`: the bytes in `{:02x}`, joined by `:`. -/
def fmt (m : MacAddr) : String := ":".intercalate (m.val.toList.map hex02)

/-- Read a MAC address back from its Debug text: split at `:`, read each part as a byte, and ask for six. -/
def ofDebug (s : String) : Option MacAddr := do
  let bytes ← (s.data.splitOn ':').mapM readByte
  if h : bytes.length = 6 then some ⟨⟨bytes, h⟩⟩ else none

end MacAddr

private theorem intercalate_cons {α : Type} (sep x : List α) (l : List (List α)) :
    sep.intercalate (x :: l) = x ++ (l.map (sep ++ ·)).flatten := by
  induction l generalizing x with
  | nil => simp [List.intercalate]
  | cons y l ih => simp only [List.intercalate, List.intersperse_cons₂, List.flatten] at ih ⊢; simp [ih]

private theorem data_intercalate_go (s acc : String) (l : List String) :
    (String.intercalate.go acc s l).data = acc.data ++ (l.map fun a => s.data ++ a.data).flatten := by
  induction l generalizing acc with
  | nil => simp [String.intercalate.go]
  | cons a l ih => simp [String.intercalate.go, ih]

private theorem data_intercalate (s : String) (l : List String) :
    (s.intercalate l).data = s.data.intercalate (l.map String.data) := by
  cases l with
  | nil => rfl
  | cons a l => simp [String.intercalate, data_intercalate_go, intercalate_cons, Function.comp_def]

private theorem mapM_readByte (l : List UInt8) : (l.map fun b => (hex02 b).data).mapM readByte = some l := by
  induction l with
  | nil => rfl
  | cons b l ih => simp only [List.map_cons, List.mapM_cons, readByte_hex02, ih]; rfl

namespace MacAddr

theorem fmt_data (m : MacAddr) : m.fmt.data = [':'].intercalate (m.val.toList.map fun b => (hex02 b).data) := by
  simp [fmt, data_intercalate, Function.comp_def]

/-- No byte's digits contain `:`, so splitting the text at `:` gives the bytes' digits back. -/
theorem fmt_splitOn (m : MacAddr) : m.fmt.data.splitOn ':' = m.val.toList.map fun b => (hex02 b).data := by
  rw [fmt_data]
  refine List.splitOn_intercalate _ ':' ?_ ?_
  · simp only [List.mem_map]
    rintro _ ⟨b, -, rfl⟩
    exact colon_not_mem_hex02 b
  · simp [← List.length_eq_zero, m.val.length_toList]

theorem ofDebug_fmt (m : MacAddr) : ofDebug m.fmt = some m := by
  simp only [ofDebug, fmt_splitOn, mapM_readByte]
  simp [m.val.length_toList]

/-- The Debug text of a MAC address is its six bytes in order, each as two lower-case hexadecimal digits, joined
by `:`; it is seventeen characters long, and the address is read back from it, so that distinct addresses print
differently. -/
theorem fmt_spec (m : MacAddr) :
    m.fmt.data = [':'].intercalate
      (m.val.toList.map fun b => [Nat.digitChar (b.toNat / 16), Nat.digitChar (b.toNat % 16)]) ∧
    m.fmt.length = 17 ∧ ofDebug m.fmt = some m ∧ ∀ m', m'.fmt = m.fmt → m' = m := by
  refine ⟨by simpa only [hex02_data] using m.fmt_data, ?_, m.ofDebug_fmt, fun m' h => ?_⟩
  · obtain ⟨⟨l, hl⟩⟩ := m
    match l, hl with
    | [_, _, _, _, _, _], _ => simp [String.length, fmt_data, hex02_data, List.intercalate]
  · exact Option.some.inj ((ofDebug_fmt m').symm.trans (h ▸ ofDebug_fmt m))

end MacAddr

end LuomuLibpcap
