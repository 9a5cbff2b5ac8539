import ReverseTunnel.Proofs.Text.Utf8
import ReverseTunnel.Text.Base64

/-!
# Bytes and their base 64

Reading accepts exactly what writing produces. Groups are followed one at a time: the four
characters of a group carry the bits of three bytes, and of the last group, where it is shorter,
the padding says how many bytes there are. The bits that the padding leaves over have to be zero,
which is what makes the written form the only one.

## Main results

* `decode?_encode`: reading undoes writing.
* `decode?_eq_some_iff`: what can be read, and as what.
-/

namespace ReverseTunnel.Text.Base64

/-! ### Characters -/

/-- The symbol of six bits stands for these bits. -/
theorem value?_symbol {n : Nat} (h : n < 64) : value? (symbol n) = some n := by
  have hall : ∀ n < 64, value? (symbol n) = some n := by decide +kernel
  exact hall n h

/-- A character that stands for something stands for six bits, and is their symbol. -/
theorem of_value? {c : Char} {n : Nat} (h : value? c = some n) : n < 64 ∧ symbol n = c := by
  obtain ⟨hn, hc, -⟩ := List.idxOf?_eq_some_iff.mp h
  refine ⟨hn, ?_⟩
  rw [symbol, List.getD_eq_getElem?_getD, List.getElem?_eq_getElem hn, hc]
  rfl

/-- The padding stands for no bits. -/
theorem symbol_ne_pad {n : Nat} (h : n < 64) : symbol n ≠ '=' := by
  intro hpad
  have hvalue := value?_symbol h
  have hnone : value? '=' = none := by decide
  rw [hpad, hnone] at hvalue
  cases hvalue

/-! ### One group -/

section

variable {n₁ n₂ n₃ n₄ : Nat} (h₁ : n₁ < 64) (h₂ : n₂ < 64) (h₃ : n₃ < 64) (h₄ : n₄ < 64)

include h₁ h₂

/-- A group with two characters of padding is read as one byte, unless bits are set behind it. -/
theorem decodeOnto_one (read : Bytes) :
    decodeOnto read [symbol n₁, symbol n₂, '=', '='] =
      if (n₁ * 64 + n₂) % 16 = 0 then some (UInt8.ofNat ((n₁ * 64 + n₂) / 16) :: read).reverse
      else none := by
  rw [decodeOnto.eq_2, value?_symbol h₁, value?_symbol h₂]
  rfl

/-- One byte at the end is written as two characters and the padding. -/
theorem encode_one (hzero : (n₁ * 64 + n₂) % 16 = 0) :
    encode [UInt8.ofNat ((n₁ * 64 + n₂) / 16)] = [symbol n₁, symbol n₂, '=', '='] := by
  have hbyte : (UInt8.ofNat ((n₁ * 64 + n₂) / 16)).toNat * 16 = n₁ * 64 + n₂ := by
    rw [Utf8.toNat_ofNat (by omega)]
    omega
  have hfirst : (n₁ * 64 + n₂) / 64 = n₁ := by omega
  have hsecond : (n₁ * 64 + n₂) % 64 = n₂ := by omega
  simp only [encode, hbyte, hfirst, hsecond]

include h₃

/-- A group with one character of padding is read as two bytes, unless bits are set behind them. -/
theorem decodeOnto_two (read : Bytes) :
    decodeOnto read [symbol n₁, symbol n₂, symbol n₃, '='] =
      if (n₁ * 4096 + n₂ * 64 + n₃) % 4 = 0 then
        some (UInt8.ofNat ((n₁ * 4096 + n₂ * 64 + n₃) / 4 % 256)
          :: UInt8.ofNat ((n₁ * 4096 + n₂ * 64 + n₃) / 1024) :: read).reverse
      else none := by
  rw [decodeOnto.eq_3 _ _ _ _ (symbol_ne_pad h₃), value?_symbol h₁, value?_symbol h₂,
    value?_symbol h₃]
  rfl

/-- Two bytes at the end are written as three characters and the padding. -/
theorem encode_two (hzero : (n₁ * 4096 + n₂ * 64 + n₃) % 4 = 0) :
    encode [UInt8.ofNat ((n₁ * 4096 + n₂ * 64 + n₃) / 1024),
        UInt8.ofNat ((n₁ * 4096 + n₂ * 64 + n₃) / 4 % 256)] =
      [symbol n₁, symbol n₂, symbol n₃, '='] := by
  have hbytes : ((UInt8.ofNat ((n₁ * 4096 + n₂ * 64 + n₃) / 1024)).toNat * 256
      + (UInt8.ofNat ((n₁ * 4096 + n₂ * 64 + n₃) / 4 % 256)).toNat) * 4 =
        n₁ * 4096 + n₂ * 64 + n₃ := by
    rw [Utf8.toNat_ofNat (by omega), Utf8.toNat_ofNat (by omega)]
    omega
  have hfirst : (n₁ * 4096 + n₂ * 64 + n₃) / 4096 = n₁ := by omega
  have hsecond : (n₁ * 4096 + n₂ * 64 + n₃) / 64 % 64 = n₂ := by omega
  have hthird : (n₁ * 4096 + n₂ * 64 + n₃) % 64 = n₃ := by omega
  simp only [encode, hbytes, hfirst, hsecond, hthird]

include h₄

/-- A group that is not padded is read as three bytes, whatever follows. -/
theorem decodeOnto_three (read : Bytes) (cs : List Char) :
    decodeOnto read (symbol n₁ :: symbol n₂ :: symbol n₃ :: symbol n₄ :: cs) =
      decodeOnto (UInt8.ofNat ((n₁ * 262144 + n₂ * 4096 + n₃ * 64 + n₄) % 256)
        :: UInt8.ofNat ((n₁ * 262144 + n₂ * 4096 + n₃ * 64 + n₄) / 256 % 256)
        :: UInt8.ofNat ((n₁ * 262144 + n₂ * 4096 + n₃ * 64 + n₄) / 65536) :: read) cs := by
  have hpad : symbol n₄ ≠ '=' := symbol_ne_pad h₄
  rw [decodeOnto.eq_4 _ _ _ _ _ _ (fun _ hw _ => hpad hw) (fun hw _ => hpad hw),
    value?_symbol h₁, value?_symbol h₂, value?_symbol h₃, value?_symbol h₄]
  rfl

/-- Three bytes are written as a group without padding, whatever follows. -/
theorem encode_three (rest : Bytes) :
    encode (UInt8.ofNat ((n₁ * 262144 + n₂ * 4096 + n₃ * 64 + n₄) / 65536)
        :: UInt8.ofNat ((n₁ * 262144 + n₂ * 4096 + n₃ * 64 + n₄) / 256 % 256)
        :: UInt8.ofNat ((n₁ * 262144 + n₂ * 4096 + n₃ * 64 + n₄) % 256) :: rest) =
      symbol n₁ :: symbol n₂ :: symbol n₃ :: symbol n₄ :: encode rest := by
  have hbytes : (UInt8.ofNat ((n₁ * 262144 + n₂ * 4096 + n₃ * 64 + n₄) / 65536)).toNat * 65536
      + (UInt8.ofNat ((n₁ * 262144 + n₂ * 4096 + n₃ * 64 + n₄) / 256 % 256)).toNat * 256
      + (UInt8.ofNat ((n₁ * 262144 + n₂ * 4096 + n₃ * 64 + n₄) % 256)).toNat =
        n₁ * 262144 + n₂ * 4096 + n₃ * 64 + n₄ := by
    rw [Utf8.toNat_ofNat (by omega), Utf8.toNat_ofNat (by omega),
      Utf8.toNat_ofNat (by omega)]
    omega
  have hfirst : (n₁ * 262144 + n₂ * 4096 + n₃ * 64 + n₄) / 262144 = n₁ := by omega
  have hsecond : (n₁ * 262144 + n₂ * 4096 + n₃ * 64 + n₄) / 4096 % 64 = n₂ := by omega
  have hthird : (n₁ * 262144 + n₂ * 4096 + n₃ * 64 + n₄) / 64 % 64 = n₃ := by omega
  have hfourth : (n₁ * 262144 + n₂ * 4096 + n₃ * 64 + n₄) % 64 = n₄ := by omega
  simp only [encode, hbytes, hfirst, hsecond, hthird, hfourth]

end

/-! ### Reading what was written -/

/-- What was written is read back, behind whatever was read before it. -/
theorem decodeOnto_encode (read bs : Bytes) :
    decodeOnto read (encode bs) = some (read.reverse ++ bs) := by
  induction bs using encode.induct generalizing read with
  | case1 => rw [encode, decodeOnto, List.append_nil]
  | case2 a =>
    have ha := a.toNat_lt
    have hbits : a.toNat * 16 / 64 * 64 + a.toNat * 16 % 64 = a.toNat * 16 := by omega
    rw [encode, decodeOnto_one (by omega) (by omega), hbits, if_pos (by omega),
      Utf8.ofNat_of_eq (b := a) (by omega), List.reverse_cons]
  | case3 a b =>
    have ha := a.toNat_lt
    have hb := b.toNat_lt
    have hbits (n : Nat) : n / 4096 * 4096 + n / 64 % 64 * 64 + n % 64 = n := by omega
    rw [encode, decodeOnto_two (by omega) (by omega) (by omega), hbits, if_pos (by omega),
      Utf8.ofNat_of_eq (b := b) (by omega), Utf8.ofNat_of_eq (b := a) (by omega), List.reverse_cons,
      List.reverse_cons, List.append_assoc, List.singleton_append]
  | case4 a b c rest ih =>
    have ha := a.toNat_lt
    have hb := b.toNat_lt
    have hc := c.toNat_lt
    have hbits (n : Nat) :
        n / 262144 * 262144 + n / 4096 % 64 * 4096 + n / 64 % 64 * 64 + n % 64 = n := by omega
    rw [encode, decodeOnto_three (by omega) (by omega) (by omega) (by omega), hbits, ih,
      Utf8.ofNat_of_eq (b := c) (by omega), Utf8.ofNat_of_eq (b := b) (by omega),
      Utf8.ofNat_of_eq (b := a) (by omega)]
    simp

/-- What is read from the characters of some bytes is the bytes. -/
theorem decode?_encode (bs : Bytes) : decode? (encode bs) = some bs := decodeOnto_encode [] bs

/-! ### Writing what was read -/

/-- What was read behind the bytes already read is written as it was. -/
theorem exists_of_decodeOnto {read bs : Bytes} {cs : List Char}
    (h : decodeOnto read cs = some bs) : ∃ tail, bs = read.reverse ++ tail ∧ cs = encode tail := by
  -- The induction follows the reader: the end, a group with padding, or a group and the rest.
  induction read, cs using decodeOnto.induct generalizing bs with
  | case1 read =>
    rw [decodeOnto] at h
    exact ⟨[], by simpa using h.symm, rfl⟩
  | case2 read x y =>
    have hread := h
    rw [decodeOnto.eq_2] at hread
    obtain ⟨n₁, hx, hread⟩ := Option.bind_eq_some_iff.mp hread
    obtain ⟨n₂, hy, -⟩ := Option.bind_eq_some_iff.mp hread
    obtain ⟨h₁, rfl⟩ := of_value? hx
    obtain ⟨h₂, rfl⟩ := of_value? hy
    rw [decodeOnto_one h₁ h₂] at h
    obtain ⟨hzero, h⟩ := Option.ite_none_right_eq_some.mp h
    obtain rfl := Option.some.inj h
    exact ⟨_, List.reverse_cons, (encode_one h₁ h₂ hzero).symm⟩
  | case3 read x y z hpad =>
    have hread := h
    rw [decodeOnto.eq_3 _ _ _ _ hpad] at hread
    obtain ⟨n₁, hx, hread⟩ := Option.bind_eq_some_iff.mp hread
    obtain ⟨n₂, hy, hread⟩ := Option.bind_eq_some_iff.mp hread
    obtain ⟨n₃, hz, -⟩ := Option.bind_eq_some_iff.mp hread
    obtain ⟨h₁, rfl⟩ := of_value? hx
    obtain ⟨h₂, rfl⟩ := of_value? hy
    obtain ⟨h₃, rfl⟩ := of_value? hz
    rw [decodeOnto_two h₁ h₂ h₃] at h
    obtain ⟨hzero, h⟩ := Option.ite_none_right_eq_some.mp h
    obtain rfl := Option.some.inj h
    exact ⟨_, by simp, (encode_two h₁ h₂ h₃ hzero).symm⟩
  | case4 read x y z w rest hone htwo ih =>
    have hread := h
    rw [decodeOnto.eq_4 _ _ _ _ _ _ hone htwo] at hread
    obtain ⟨n₁, hx, hread⟩ := Option.bind_eq_some_iff.mp hread
    obtain ⟨n₂, hy, hread⟩ := Option.bind_eq_some_iff.mp hread
    obtain ⟨n₃, hz, hread⟩ := Option.bind_eq_some_iff.mp hread
    obtain ⟨n₄, hw, -⟩ := Option.bind_eq_some_iff.mp hread
    obtain ⟨h₁, rfl⟩ := of_value? hx
    obtain ⟨h₂, rfl⟩ := of_value? hy
    obtain ⟨h₃, rfl⟩ := of_value? hz
    obtain ⟨h₄, rfl⟩ := of_value? hw
    rw [decodeOnto_three h₁ h₂ h₃ h₄] at h
    obtain ⟨tail, rfl, rfl⟩ := ih n₁ n₂ n₃ n₄ h
    exact ⟨_, by simp, (encode_three h₁ h₂ h₃ h₄ tail).symm⟩
  | case5 read cs h₁ h₂ h₃ h₄ =>
    rw [decodeOnto.eq_5 _ _ h₁ h₂ h₃ h₄] at h
    cases h

/-- **Characters can be read exactly if they are what is written for some bytes**, and then they
are read as these bytes. -/
theorem decode?_eq_some_iff {cs : List Char} {bs : Bytes} :
    decode? cs = some bs ↔ cs = encode bs := by
  constructor
  · intro h
    obtain ⟨tail, rfl, rfl⟩ := exists_of_decodeOnto h
    rfl
  · rintro rfl
    exact decode?_encode bs

end ReverseTunnel.Text.Base64
