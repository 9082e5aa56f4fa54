import PowerTelemetry.Proofs.Wire.Reading
/-!
# What is written is read again

The readers of numbers, keys and values undo the writers, whatever bytes follow.

A message is read field by field.  `Reads` is a run of this: from what is held
and the bytes to what is held then and the bytes that are left.  A run up to the
end of a message is what reading the message does (`readMessage_of_reads`,
`readEmbedded_of_reads`).

Messages of scalar fields are told apart by numbers that are `WellNumbered`.
-/

namespace PowerTelemetry.Wire

/-! ## Numbers and keys -/

theorem readNumber_writeVarint {n : Nat} (h : n < 2 ^ 64) (rest : List UInt8) :
    readNumber (writeVarint n ++ rest) = .ok (n, rest) :=
  readNumber_append (isVarint_writeVarint h) rest

namespace WireType

theorem code_lt (wire : WireType) : wire.code < 8 := by
  cases wire <;> decide

@[simp] theorem ofCode?_code (wire : WireType) : ofCode? wire.code = some wire := by
  cases wire <;> rfl

end WireType

private theorem pow_thirty_two : Nat.pow 2 32 = 4294967296 := by
  decide

private theorem pow_sixty_four : Nat.pow 2 64 = 18446744073709551616 := by
  decide

/-- A key is read, also one that is longer than needed, if its number leaves room for
the layout. -/
theorem readKey_append {key : List UInt8} {number : Nat} {wire : WireType}
    (hkey : IsVarint key (8 * number + wire.code)) (hpos : 0 < number) (hlt : number < 2 ^ 29)
    (rest : List UInt8) : readKey (key ++ rest) = .ok (number, wire, rest) := by
  have hcode := wire.code_lt
  have hsmall : ¬ Nat.pow 2 32 ≤ 8 * number + wire.code := by
    rw [pow_thirty_two]
    omega
  have hwire : (8 * number + wire.code) % 8 = wire.code := by omega
  have hnumber : (8 * number + wire.code) / 8 = number := by omega
  rw [readKey, readNumber_append hkey, ok_bind]
  dsimp only
  rw [if_neg hsmall, hwire, WireType.ofCode?_code]
  dsimp only
  rw [hnumber, if_neg (by omega)]

/-- A key is read again if its number leaves room for the layout. -/
theorem readKey_writeKey {number : Nat} (hpos : 0 < number) (hlt : number < 2 ^ 29)
    (wire : WireType) (rest : List UInt8) :
    readKey (writeKey number wire ++ rest) = .ok (number, wire, rest) := by
  have hcode := wire.code_lt
  exact readKey_append (isVarint_writeVarint (by omega)) hpos hlt rest

theorem length_le_writeDelimited (content : List UInt8) :
    content.length ≤ (writeDelimited content).length := by
  rw [writeDelimited, List.length_append]
  omega

theorem readDelimited_append {length content : List UInt8} (h : IsVarint length content.length)
    (rest : List UInt8) : readDelimited (length ++ content ++ rest) = .ok (content, rest) := by
  rw [readDelimited, List.append_assoc, readNumber_append h, ok_bind]
  dsimp only
  rw [if_neg (by simp), List.take_left, List.drop_left]

theorem readDelimited_writeDelimited {content : List UInt8} (h : content.length < 2 ^ 64)
    (rest : List UInt8) :
    readDelimited (writeDelimited content ++ rest) = .ok (content, rest) :=
  readDelimited_append (isVarint_writeVarint h) rest

/-! ## Values -/

@[simp] theorem unfold_fold (i : Int) : unfold (fold i) = i := by
  rw [unfold, fold]
  split <;> split <;> omega

theorem Kind.readContent_int32 (i : Int32) (rest : List UInt8) :
    readContent .int32 (write .int32 i ++ rest) = .ok (i, rest) := by
  have hbound : (i.toInt % (Nat.pow 2 64 : Nat)).toNat < 2 ^ 64 := by
    rw [pow_sixty_four]
    omega
  have hvalue : Int32.ofInt ((i.toInt % (Nat.pow 2 64 : Nat)).toNat : Nat) = i := by
    have hle := i.le_toInt
    have hlt := i.toInt_lt
    apply Int32.toInt_inj.mp
    rw [Int32.toInt_ofInt, Int.bmod_def, pow_sixty_four, Int32.size]
    omega
  rw [readContent, write, readNumber_writeVarint hbound]
  exact congrArg (fun j => Except.ok (j, rest)) hvalue

theorem Kind.readContent_uint32 (n : UInt32) (rest : List UInt8) :
    readContent .uint32 (write .uint32 n ++ rest) = .ok (n, rest) := by
  have hlt := n.toNat_lt
  rw [readContent, write, readNumber_writeVarint (by omega)]
  exact congrArg (fun m => Except.ok (m, rest)) UInt32.ofNat_toNat

theorem Kind.readContent_sint32 (i : Int32) (rest : List UInt8) :
    readContent .sint32 (write .sint32 i ++ rest) = .ok (i, rest) := by
  have hle := i.le_toInt
  have hlt := i.toInt_lt
  have hbound : fold i.toInt < 4294967296 := by
    rw [fold]
    split <;> omega
  have hvalue : Int32.ofInt (unfold (fold i.toInt % Nat.pow 2 32)) = i := by
    rw [pow_thirty_two, Nat.mod_eq_of_lt hbound, unfold_fold, Int32.ofInt_toInt]
  rw [readContent, write, readNumber_writeVarint (by omega)]
  exact congrArg (fun j => Except.ok (j, rest)) hvalue

/-- A value is read again if its bytes fit into memory. -/
theorem Kind.readContent_write (k : Kind) (x : k.Carrier) (h : (k.write x).length < 2 ^ 64)
    (rest : List UInt8) : k.readContent (k.write x ++ rest) = .ok (x, rest) := by
  cases k with
  | int32 => exact readContent_int32 x rest
  | uint32 => exact readContent_uint32 x rest
  | sint32 => exact readContent_sint32 x rest
  | bytes =>
    have hlength := Nat.lt_of_le_of_lt (length_le_writeDelimited x) h
    exact readDelimited_writeDelimited hlength rest
  | text =>
    have hlength := Nat.lt_of_le_of_lt (length_le_writeDelimited (Text.utf8 x)) h
    rw [readContent, write, readDelimited_writeDelimited hlength]
    simp only [Text.ofUtf8?_utf8]

/-! ## Runs over fields -/

section Runs

variable {α : Type}

/-- Fields read one after another, each by `readField`: what is held at the start
and the bytes then, what is held at the end and the bytes that are left. -/
inductive Reads
    (readField : α → Nat → WireType → List UInt8 → Except DecodeError (α × List UInt8)) :
    α → List UInt8 → α → List UInt8 → Prop where
  | done (a : α) (bytes : List UInt8) : Reads readField a bytes a bytes
  | field {a b c : α} {bytes content after rest : List UInt8} {number : Nat} {wire : WireType}
      (key : readKey bytes = .ok (number, wire, content))
      (read : readField a number wire content = .ok (b, after))
      (later : Reads readField b after c rest) : Reads readField a bytes c rest

variable {readField : α → Nat → WireType → List UInt8 → Except DecodeError (α × List UInt8)}
  {a b : α} {bytes rest : List UInt8}

/-- A run leaves no more bytes than there were. -/
theorem Reads.length_le
    (hfield : ∀ a number wire bytes b rest, readField a number wire bytes = .ok (b, rest) →
      rest.length ≤ bytes.length)
    (h : Reads readField a bytes b rest) : rest.length ≤ bytes.length := by
  induction h with
  | done => exact Nat.le_refl _
  | field key read _ ih =>
    have hkey := length_readKey key
    have hread := hfield _ _ _ _ _ _ read
    omega

/-- A run up to the limit is all that is read. -/
theorem readFields_of_reads
    (hfield : ∀ a number wire bytes b rest, readField a number wire bytes = .ok (b, rest) →
      rest.length ≤ bytes.length)
    (h : Reads readField a bytes b rest) {fuel : Nat} (hfuel : bytes.length ≤ fuel) :
    readFields readField rest.length fuel a bytes = .ok (b, rest) := by
  induction h generalizing fuel with
  | done a bytes =>
    cases fuel with
    | zero => rfl
    | succ fuel => rw [readFields, if_pos (Nat.le_refl _)]
  | field key read later ih =>
    have hkey := length_readKey key
    have hread := hfield _ _ _ _ _ _ read
    have hlater := later.length_le hfield
    obtain ⟨fuel, rfl⟩ : ∃ k, fuel = k + 1 := ⟨fuel - 1, by omega⟩
    rw [readFields, if_neg (by omega), key]
    simp only [read]
    exact ih (by omega)

/-- A message is read by a run over all of its bytes. -/
theorem readMessage_of_reads
    (hfield : ∀ a number wire bytes b rest, readField a number wire bytes = .ok (b, rest) →
      rest.length ≤ bytes.length)
    (h : Reads readField a bytes b []) : readMessage readField a bytes = .ok b := by
  have hfields := readFields_of_reads hfield h (Nat.le_refl _)
  rw [List.length_nil] at hfields
  rw [readMessage, hfields]
  rfl

/-- An embedded message is read by a run over its bytes; those after it are
left. -/
theorem readEmbedded_of_reads
    (hfield : ∀ a number wire bytes b rest, readField a number wire bytes = .ok (b, rest) →
      rest.length ≤ bytes.length)
    {body : List UInt8} (hlength : body.length < 2 ^ 64)
    (h : Reads readField a (body ++ rest) b rest) :
    readEmbedded readField a (writeDelimited body ++ rest) = .ok (b, rest) := by
  have hfields := readFields_of_reads hfield h (Nat.le_refl _)
  have hlimit : (body ++ rest).length - body.length = rest.length := by simp
  rw [readEmbedded, writeDelimited, List.append_assoc, readNumber_writeVarint hlength]
  dsimp only
  rw [if_neg (by simp), hlimit, hfields]
  simp only [if_true]

end Runs

/-! ## Messages of scalar fields -/

/-- Field lists that can be told apart by numbers that fit into keys. -/
structure WellNumbered (fs : List Field) : Prop where
  distinct : (fs.map (·.number)).Nodup
  fits : ∀ f ∈ fs, 0 < f.number ∧ f.number < 2 ^ 29

theorem WellNumbered.tail {f : Field} {fs : List Field} (h : WellNumbered (f :: fs)) :
    WellNumbered fs :=
  ⟨(List.nodup_cons.mp h.distinct).2, fun g hg => h.fits g (List.mem_cons_of_mem _ hg)⟩

/-- The first number is not that of a later field. -/
theorem WellNumbered.number_ne {f g : Field} {fs : List Field} (h : WellNumbered (f :: fs))
    (hg : g ∈ fs) : f.number ≠ g.number := by
  intro heq
  exact (List.nodup_cons.mp h.distinct).1 (List.mem_map.mpr ⟨g, hg, heq.symm⟩)

namespace Values

/-- The values of fields, after the one of a field in front of them. -/
def cons {f : Field} {fs : List Field} (x : Option f.kind.Carrier) (v : Values fs) :
    Values (f :: fs) :=
  (x, v)

end Values

end PowerTelemetry.Wire
