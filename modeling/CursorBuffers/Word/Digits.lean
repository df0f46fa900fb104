namespace CursorBuffers.Digits

variable {count value : Nat} {bytes : List UInt8}

/-- How many numbers have `count` digits. -/
def limit : Nat → Nat
  | 0 => 1
  | count + 1 => 256 * limit count

/-- The digits of a number in base 256, the least significant one first. -/
def lowFirst : Nat → Nat → List UInt8
  | 0, _ => []
  | count + 1, value => UInt8.ofNat value :: lowFirst count (value / 256)

def ofLowFirst : List UInt8 → Nat
  | [] => 0
  | byte :: rest => byte.toNat + 256 * ofLowFirst rest

/-- The same digits, the most significant one first. -/
def highFirst : Nat → Nat → List UInt8
  | 0, _ => []
  | count + 1, value => UInt8.ofNat (value / limit count) :: highFirst count value

def ofHighFirst (bytes : List UInt8) : Nat :=
  bytes.foldl (fun value byte => 256 * value + byte.toNat) 0

@[simp] theorem length_lowFirst : (lowFirst count value).length = count := by
  induction count generalizing value with
  | zero => rfl
  | succ count ih => simp [lowFirst, ih]

@[simp] theorem length_highFirst : (highFirst count value).length = count := by
  induction count with
  | zero => rfl
  | succ count ih => simp [highFirst, ih]

theorem ofLowFirst_lt : ofLowFirst bytes < limit bytes.length := by
  induction bytes with
  | nil => exact Nat.one_pos
  | cons byte rest ih =>
      have := byte.toNat_lt
      simp only [ofLowFirst, List.length_cons, limit]
      omega

theorem ofLowFirst_lowFirst : ofLowFirst (lowFirst count value) = value % limit count := by
  induction count generalizing value with
  | zero => exact (Nat.mod_one value).symm
  | succ count ih =>
      have split : value % limit (count + 1) = value % 256 + 256 * (value / 256 % limit count) := by
        rw [limit, Nat.mod_mul]
      simp [lowFirst, ofLowFirst, ih, split]

theorem lowFirst_ofLowFirst : lowFirst bytes.length (ofLowFirst bytes) = bytes := by
  induction bytes with
  | nil => rfl
  | cons byte rest ih =>
      have bound := byte.toNat_lt
      have digit : UInt8.ofNat (byte.toNat + 256 * ofLowFirst rest) = byte := by
        apply UInt8.toNat_inj.mp
        simp only [UInt8.toNat_ofNat']
        omega
      have shifted : (byte.toNat + 256 * ofLowFirst rest) / 256 = ofLowFirst rest := by omega
      simp only [List.length_cons, lowFirst, ofLowFirst, digit, shifted, ih]

theorem lowFirst_concat :
    lowFirst (count + 1) value = lowFirst count value ++ [UInt8.ofNat (value / limit count)] := by
  induction count generalizing value with
  | zero => simp [lowFirst, limit]
  | succ count ih =>
      rw [lowFirst, ih, lowFirst, List.cons_append, Nat.div_div_eq_div_mul, limit]

theorem highFirst_eq_reverse : highFirst count value = (lowFirst count value).reverse := by
  induction count with
  | zero => rfl
  | succ count ih => simp [lowFirst_concat, highFirst, ih]

theorem ofHighFirst_append_singleton {byte : UInt8} :
    ofHighFirst (bytes ++ [byte]) = 256 * ofHighFirst bytes + byte.toNat := by
  simp [ofHighFirst]

theorem ofHighFirst_eq_reverse : ofHighFirst bytes = ofLowFirst bytes.reverse := by
  suffices reversed : ∀ digits : List UInt8, ofHighFirst digits.reverse = ofLowFirst digits by
    simpa using reversed bytes.reverse
  intro digits
  induction digits with
  | nil => rfl
  | cons byte rest ih =>
      rw [List.reverse_cons, ofHighFirst_append_singleton, ih, ofLowFirst, Nat.add_comm]

theorem ofHighFirst_highFirst : ofHighFirst (highFirst count value) = value % limit count := by
  simp [ofHighFirst_eq_reverse, highFirst_eq_reverse, ofLowFirst_lowFirst]

theorem ofHighFirst_lt : ofHighFirst bytes < limit bytes.length := by
  have bound : ofLowFirst bytes.reverse < limit bytes.reverse.length := ofLowFirst_lt
  simpa [ofHighFirst_eq_reverse] using bound

theorem highFirst_ofHighFirst : highFirst bytes.length (ofHighFirst bytes) = bytes := by
  have reversed : lowFirst bytes.reverse.length (ofLowFirst bytes.reverse) = bytes.reverse :=
    lowFirst_ofLowFirst
  simp only [List.length_reverse] at reversed
  simp [highFirst_eq_reverse, ofHighFirst_eq_reverse, reversed]

end CursorBuffers.Digits
