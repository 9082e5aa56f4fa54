import PowerTelemetry.Proofs.Outcome
import PowerTelemetry.Proofs.Wire.Varint
import PowerTelemetry.Wire.Message
/-!
# Readers and what they leave

Every reader of fields leaves fewer bytes than it is given, or as many
(`length_skip`, `Values.length_readField`).  So a message of a given length is
read to its end (`length_readFields`): its fuel never runs out before its bytes.

`skip_succ` and `Values.readField_succ` compare readers that go to different
depths: what the shallower one reads, the deeper one reads too.  An embedded
message is read one level down; `readEmbedded_append` says that nothing else
tells it from a message of its own.
-/

namespace PowerTelemetry.Wire

variable {bytes rest : List UInt8}

/-! ## Numbers and keys -/

theorem readNumber_append {v : List UInt8} {n : Nat} (h : IsVarint v n) (rest : List UInt8) :
    readNumber (v ++ rest) = .ok (n, rest) := by
  rw [readNumber, readVarint?_append h]

/-- A number takes a byte at least. -/
theorem length_readNumber {n : Nat} (h : readNumber bytes = .ok (n, rest)) :
    rest.length < bytes.length := by
  rw [readNumber] at h
  split at h
  · rename_i r hread
    obtain rfl := Except.ok.inj h
    obtain ⟨v, rfl, hv⟩ := readVarint?_eq_some_iff.mp hread
    have hpos : 0 < v.length := List.length_pos_iff.mpr hv.ne_nil
    rw [List.length_append]
    omega
  · cases h

theorem length_readKey {number : Nat} {wire : WireType}
    (h : readKey bytes = .ok (number, wire, rest)) : rest.length < bytes.length := by
  obtain ⟨⟨key, after⟩, hnumber, h⟩ := exists_of_bind_eq_ok h
  have hlength := length_readNumber hnumber
  dsimp only at h
  split at h
  · cases h
  · split at h
    · cases h
    · split at h
      · cases h
      · obtain ⟨rfl, rfl, rfl⟩ := by simpa using h
        exact hlength

theorem length_readDelimited {content : List UInt8}
    (h : readDelimited bytes = .ok (content, rest)) : rest.length ≤ bytes.length := by
  obtain ⟨⟨length, after⟩, hnumber, h⟩ := exists_of_bind_eq_ok h
  have hlength := length_readNumber hnumber
  dsimp only at h
  split at h
  · cases h
  · obtain ⟨rfl, rfl⟩ := by simpa using h
    rw [List.length_drop]
    omega

/-! ## Skipping -/

theorem length_dropBytes {count : Nat} (h : dropBytes count bytes = .ok rest) :
    rest.length ≤ bytes.length := by
  rw [dropBytes] at h
  split at h
  · cases h
  · obtain rfl := Except.ok.inj h
    rw [List.length_drop]
    omega

theorem length_skipGroup
    {skipField : WireType → Nat → List UInt8 → Except Fault (List UInt8)}
    (hskip : ∀ wire number bytes rest, skipField wire number bytes = .ok rest →
      rest.length ≤ bytes.length)
    {number fuel : Nat} (h : skipGroup skipField number fuel bytes = .ok rest) :
    rest.length ≤ bytes.length := by
  induction fuel generalizing bytes with
  | zero => cases h
  | succ fuel ih =>
    obtain ⟨⟨inner, wire, after⟩, hkey, h⟩ := exists_of_bind_eq_ok h
    have hlength := length_readKey hkey
    dsimp only at h
    split at h
    · split at h
      · obtain rfl := Except.ok.inj h
        omega
      · cases h
    · obtain ⟨after', hinner, h⟩ := exists_of_bind_eq_ok h
      have hfield := hskip _ _ _ _ hinner
      have hgroup := ih h
      omega

/-- A skipped field leaves no more bytes than there were. -/
theorem length_skip {depth number : Nat} {wire : WireType}
    (h : skip depth wire number bytes = .ok rest) : rest.length ≤ bytes.length := by
  induction depth generalizing wire number bytes rest with
  | zero => cases h
  | succ depth ih =>
    cases wire with
    | varint =>
      obtain ⟨⟨n, after⟩, hnumber, rfl⟩ := exists_of_map_eq_ok h
      exact Nat.le_of_lt (length_readNumber hnumber)
    | fixed32 => exact length_dropBytes h
    | fixed64 => exact length_dropBytes h
    | delimited =>
      obtain ⟨⟨content, after⟩, hdelimited, rfl⟩ := exists_of_map_eq_ok h
      exact length_readDelimited hdelimited
    | groupStart => exact length_skipGroup (fun _ _ _ _ hinner => ih hinner) h
    | groupEnd => cases h

/-! ## Deeper readers -/

theorem skipGroup_mono {f g : WireType → Nat → List UInt8 → Except Fault (List UInt8)}
    (hfg : ∀ wire number bytes rest, f wire number bytes = .ok rest →
      g wire number bytes = .ok rest)
    {number fuel : Nat} (h : skipGroup f number fuel bytes = .ok rest) :
    skipGroup g number fuel bytes = .ok rest := by
  induction fuel generalizing bytes with
  | zero => cases h
  | succ fuel ih =>
    obtain ⟨⟨inner, wire, after⟩, hkey, h⟩ := exists_of_bind_eq_ok h
    rw [skipGroup, hkey, ok_bind]
    dsimp only at h ⊢
    split at h
    · rename_i hend
      rw [if_pos hend]
      exact h
    · rename_i hend
      obtain ⟨after', hinner, h⟩ := exists_of_bind_eq_ok h
      rw [if_neg hend, hfg _ _ _ _ hinner, ok_bind]
      exact ih h

/-- What is skipped is also skipped where groups may nest one level deeper. -/
theorem skip_succ {depth number : Nat} {wire : WireType}
    (h : skip depth wire number bytes = .ok rest) :
    skip (depth + 1) wire number bytes = .ok rest := by
  induction depth generalizing wire number bytes rest with
  | zero => cases h
  | succ depth ih =>
    cases wire with
    | groupStart => exact skipGroup_mono (fun _ _ _ _ hinner => ih hinner) h
    | _ => exact h

/-! ## Fields -/

theorem length_readContent (k : Kind) {x : k.Carrier} (h : k.readContent bytes = .ok (x, rest)) :
    rest.length ≤ bytes.length := by
  cases k with
  | bytes => exact length_readDelimited h
  | text =>
    rw [Kind.readContent] at h
    split at h
    · cases h
    · rename_i hdelimited
      split at h
      · obtain ⟨_, rfl⟩ := Prod.mk.inj (Except.ok.inj h)
        exact length_readDelimited hdelimited
      · cases h
  | _ =>
    obtain ⟨⟨n, after⟩, hnumber, heq⟩ := exists_of_map_eq_ok h
    obtain ⟨_, rfl⟩ := Prod.mk.inj heq
    exact Nat.le_of_lt (length_readNumber hnumber)

/-- A field leaves no more bytes than there were. -/
theorem Values.length_readField {message : String} {depth : Nat} {fs : List Field}
    {v w : Values fs} {number : Nat} {wire : WireType}
    (h : Values.readField message depth fs v number wire bytes = .ok (w, rest)) :
    rest.length ≤ bytes.length := by
  induction fs with
  | nil =>
    rw [Values.readField] at h
    split at h
    · rename_i hskip
      obtain ⟨_, rfl⟩ := Prod.mk.inj (Except.ok.inj h)
      exact length_skip hskip
    · cases h
  | cons f fs ih =>
    rw [Values.readField] at h
    split at h
    · split at h
      · rename_i hread
        obtain ⟨_, rfl⟩ := Prod.mk.inj (Except.ok.inj h)
        rw [Kind.read] at hread
        split at hread
        · exact length_readContent f.kind hread
        · cases hread
      · cases h
    · split at h
      · rename_i hread
        obtain ⟨_, rfl⟩ := Prod.mk.inj (Except.ok.inj h)
        exact ih hread
      · cases h

/-- A field that is read is also read one level deeper. -/
theorem Values.readField_succ {message : String} {depth : Nat} {fs : List Field}
    {v w : Values fs} {number : Nat} {wire : WireType}
    (h : Values.readField message depth fs v number wire bytes = .ok (w, rest)) :
    Values.readField message (depth + 1) fs v number wire bytes = .ok (w, rest) := by
  induction fs with
  | nil =>
    rw [Values.readField] at h ⊢
    split at h
    · rename_i hskip
      rw [skip_succ hskip]
      exact h
    · cases h
  | cons f fs ih =>
    rw [Values.readField] at h ⊢
    split at h
    · rename_i hnumber
      rw [if_pos hnumber]
      exact h
    · rename_i hnumber
      rw [if_neg hnumber]
      split at h
      · rename_i hread
        obtain ⟨rfl, rfl⟩ := Prod.mk.inj (Except.ok.inj h)
        rw [ih hread]
      · cases h

/-! ## Messages -/

section Messages

variable {α : Type}
  {readField : α → Nat → WireType → List UInt8 → Except DecodeError (α × List UInt8)}

/-- A message is read up to its end. -/
theorem length_readFields
    (hfield : ∀ a number wire bytes b rest, readField a number wire bytes = .ok (b, rest) →
      rest.length ≤ bytes.length)
    {limit fuel : Nat} {a b : α} (hfuel : bytes.length ≤ fuel)
    (h : readFields readField limit fuel a bytes = .ok (b, rest)) : rest.length ≤ limit := by
  induction fuel generalizing a bytes with
  | zero =>
    obtain ⟨_, rfl⟩ := Prod.mk.inj (Except.ok.inj h)
    omega
  | succ fuel ih =>
    rw [readFields] at h
    split at h
    · obtain ⟨_, rfl⟩ := Prod.mk.inj (Except.ok.inj h)
      assumption
    · split at h
      · cases h
      · rename_i hkey
        have hlength := length_readKey hkey
        split at h
        · cases h
        · rename_i hread
          have hafter := hfield _ _ _ _ _ _ hread
          exact ih (by omega) h

/-- A message is read by every reader that reads its fields. -/
theorem readFields_mono
    {other : α → Nat → WireType → List UInt8 → Except DecodeError (α × List UInt8)}
    (hother : ∀ a number wire bytes r, readField a number wire bytes = .ok r →
      other a number wire bytes = .ok r)
    {limit fuel : Nat} {a : α} {r : α × List UInt8}
    (h : readFields readField limit fuel a bytes = .ok r) :
    readFields other limit fuel a bytes = .ok r := by
  induction fuel generalizing a bytes with
  | zero => exact h
  | succ fuel ih =>
    rw [readFields] at h ⊢
    split at h
    · rename_i hend
      rw [if_pos hend]
      exact h
    · rename_i hend
      rw [if_neg hend]
      split at h
      · cases h
      · split at h
        · cases h
        · rename_i hread
          simp only [hother _ _ _ _ _ hread]
          exact ih h

/-- An embedded message that takes all bytes is read as if it stood alone. -/
theorem readEmbedded_append
    (hfield : ∀ a number wire bytes b rest, readField a number wire bytes = .ok (b, rest) →
      rest.length ≤ bytes.length)
    {v body : List UInt8} (hv : IsVarint v body.length) (a : α) :
    readEmbedded readField a (v ++ body) = (readMessage readField a body).map fun b => (b, []) := by
  rw [readEmbedded, readNumber_append hv, readMessage]
  dsimp only
  rw [if_neg (Nat.lt_irrefl _), Nat.sub_self]
  cases hread : readFields readField 0 body.length a body with
  | error e => rfl
  | ok r =>
    obtain ⟨b, after⟩ := r
    have hlength := length_readFields hfield (Nat.le_refl _) hread
    obtain rfl : after = [] := List.length_eq_zero_iff.mp (Nat.le_zero.mp hlength)
    rfl

/-- An embedded message leaves fewer bytes than there were, whatever its fields
leave. -/
theorem length_readEmbedded {a b : α} (h : readEmbedded readField a bytes = .ok (b, rest)) :
    rest.length < bytes.length := by
  rw [readEmbedded] at h
  split at h
  · cases h
  · rename_i length content hnumber
    have hlength := length_readNumber hnumber
    split at h
    · cases h
    · split at h
      · cases h
      · split at h
        · rename_i hend
          obtain ⟨_, rfl⟩ := Prod.mk.inj (Except.ok.inj h)
          omega
        · cases h

end Messages

end PowerTelemetry.Wire
