import Rflow.Foundation.Outcome

/-!
# Length-prefixed framing

A frame is the length of an encoded message in four bytes, most significant first, and then the
encoded message.  A read in progress owns the bytes that it has taken from the stream so far:
polling it takes what has arrived, up to the end of the current frame.
-/

namespace Foundation
namespace Framing

variable {ε : Type}

/-- A number in four bytes, most significant first. -/
def bigEndian (value : Nat) : List UInt8 :=
  [UInt8.ofNat (value / 2 ^ 24), UInt8.ofNat (value / 2 ^ 16), UInt8.ofNat (value / 2 ^ 8),
    UInt8.ofNat value]

/-- The number that some bytes stand for, most significant first. -/
def ofBigEndian (bytes : List UInt8) : Nat :=
  bytes.foldl (fun value byte => value * 256 + byte.toNat) 0

@[simp]
theorem length_bigEndian (value : Nat) : (bigEndian value).length = 4 := rfl

theorem ofBigEndian_bigEndian {value : Nat} (bound : value < 2 ^ 32) :
    ofBigEndian (bigEndian value) = value := by
  simp only [ofBigEndian, bigEndian, List.foldl_cons, List.foldl_nil, UInt8.toNat_ofNat']
  omega

/-- Where two texts start with a length and that many bytes, the bytes and what follows agree. -/
theorem lengthPrefixed_inj {first second rest otherRest : List UInt8}
    (firstFits : first.length < 2 ^ 32) (secondFits : second.length < 2 ^ 32)
    (same : bigEndian first.length ++ (first ++ rest) =
      bigEndian second.length ++ (second ++ otherRest)) : first = second ∧ rest = otherRest := by
  obtain ⟨lengths, texts⟩ := List.append_inj same rfl
  have sameLength : first.length = second.length := by
    rw [← ofBigEndian_bigEndian firstFits, lengths, ofBigEndian_bigEndian secondFits]
  exact List.append_inj texts sameLength

/-- A way to write messages as bytes and to read them back. -/
structure Codec (ε : Type) where
  encode : ε → List UInt8
  decode : List UInt8 → Option ε

namespace Codec

variable (codec : Codec ε)

/-- The frame of a message. -/
def frame (message : ε) : List UInt8 :=
  bigEndian (codec.encode message).length ++ codec.encode message

/-- The frames of some messages, one after the other. -/
def frames (messages : List ε) : List UInt8 := messages.flatMap codec.frame

/-- A message can be read back and its encoding is not longer than the limit. -/
structure Carries (limit : Nat) (message : ε) : Prop where
  restored : codec.decode (codec.encode message) = some message
  fits : (codec.encode message).length ≤ limit

end Codec

/-- Why a read fails. -/
inductive ReadError where
  | tooLong (length : Nat)
  | undecodable
  deriving DecidableEq

/-- The bytes that a read in progress has taken. -/
structure Reading where
  header : List UInt8
  body : List UInt8
  deriving DecidableEq

namespace Reading

/-- A read that has not started. -/
def fresh : Reading := { header := [], body := [] }

/-- Everything that the read has taken. -/
def taken (reading : Reading) : List UInt8 := reading.header ++ reading.body

/-- A read that waits for more bytes: of the header, or of a body whose length it knows. -/
structure Waiting (reading : Reading) : Prop where
  header : reading.header.length ≤ 4
  noBody : reading.header.length < 4 → reading.body = []
  body : reading.header.length = 4 → reading.body.length < ofBigEndian reading.header

theorem fresh_waiting : fresh.Waiting := ⟨by decide, fun _ => rfl, fun absurd => by cases absurd⟩

@[simp]
theorem fresh_taken : fresh.taken = [] := rfl

theorem eq_fresh {reading : Reading} (nothing : reading.taken = []) : reading = fresh := by
  obtain ⟨header, body⟩ := reading
  obtain ⟨rfl, rfl⟩ : header = [] ∧ body = [] := by simpa [taken] using nothing
  rfl

end Reading

/-- Move bytes from the stream to a buffer until the buffer has the given size. -/
def readExact (size : Nat) (filled buffered : List UInt8) : List UInt8 × List UInt8 :=
  (filled ++ buffered.take (size - filled.length), buffered.drop (size - filled.length))

/-- Poll a read of one frame: the header first, then the body of the announced length. -/
def poll (codec : Codec ε) (limit : Nat) (reading : Reading) (buffered : List UInt8) :
    Outcome ReadError (Option ε × Reading × List UInt8) :=
  let (header, buffered) := readExact 4 reading.header buffered
  if header.length < 4 then
    .ok (none, { reading with header }, buffered)
  else
    let length := ofBigEndian header
    if limit < length then
      .err (.tooLong length)
    else
      let (body, buffered) := readExact length reading.body buffered
      if body.length < length then
        .ok (none, { header, body }, buffered)
      else
        match codec.decode body with
        | some message => .ok (some message, .fresh, buffered)
        | none => .err .undecodable

/-- A poll never panics. -/
theorem poll_returns {codec : Codec ε} {limit : Nat} {reading : Reading} {buffered : List UInt8} :
    (poll codec limit reading buffered).Returns := by
  simp only [poll]
  split_ifs
  · exact Outcome.returns_ok
  · exact Outcome.returns_err
  · exact Outcome.returns_ok
  · split
    · exact Outcome.returns_ok
    · exact Outcome.returns_err

theorem readExact_eq {size : Nat} {filled buffered : List UInt8} (room : filled.length ≤ size) :
    readExact size filled buffered =
      ((filled ++ buffered).take size, (filled ++ buffered).drop size) := by
  unfold readExact
  rw [List.take_append, List.drop_append, List.take_of_length_le room,
    List.drop_of_length_le room, List.nil_append]

variable {codec : Codec ε} {limit : Nat}

/-- What starts with a front that has fully arrived splits there. -/
theorem split_front {available coming front tail : List UInt8}
    (aligned : available ++ coming = front ++ tail) (long : front.length ≤ available.length) :
    ∃ left, available = front ++ left ∧ left ++ coming = tail := by
  rcases List.append_eq_append_iff.mp aligned with ⟨missing, rfl, _⟩ | ⟨left, rfl, rfl⟩
  · obtain rfl : missing = [] := by simpa using long
    exact ⟨[], by simp, by simpa using aligned⟩
  · exact ⟨left, rfl, rfl⟩

/-- Reading the header of a frame whose header has arrived leaves the rest of the frame. -/
theorem readExact_header {reading : Reading} {buffered front after : List UInt8}
    (waiting : reading.Waiting) (size : front.length = 4)
    (arrived : reading.taken ++ buffered = front ++ after) :
    ∃ left, readExact 4 reading.header buffered = (front, left) ∧
      reading.body ++ left = after ∧
      (reading.body = [] ∨ reading.body.length < ofBigEndian front) := by
  obtain ⟨header, body⟩ := reading
  rw [readExact_eq waiting.header]
  rcases Nat.lt_or_eq_of_le waiting.header with partly | full
  · obtain rfl : body = [] := waiting.noBody partly
    simp only [Reading.taken, List.append_nil] at arrived
    exact ⟨after, by simp [arrived, ← size], by simp, Or.inl rfl⟩
  · simp only [Reading.taken, List.append_assoc] at arrived
    obtain ⟨rfl, rfl⟩ := List.append_inj arrived (full.trans size.symm)
    exact ⟨buffered, by simp [← size], rfl, Or.inr (waiting.body full)⟩

/-- Polling on a stream whose next bytes are a frame takes what there is of the frame, and returns
its message once all of it has been taken. -/
theorem poll_frame {reading : Reading} {buffered coming more : List UInt8} {message : ε}
    (carries : codec.Carries limit message) (bound : limit < 2 ^ 32) (waiting : reading.Waiting)
    (aligned : reading.taken ++ buffered ++ coming = codec.frame message ++ more) :
    (∃ later, later.Waiting ∧ later.taken = reading.taken ++ buffered ∧
        poll codec limit reading buffered = .ok (none, later, [])) ∨
      ∃ left, reading.taken ++ buffered = codec.frame message ++ left ∧
        poll codec limit reading buffered = .ok (some message, .fresh, left) := by
  have announced := ofBigEndian_bigEndian (lt_of_le_of_lt carries.fits bound)
  by_cases short : (reading.taken ++ buffered).length < 4
  · have partly : reading.header.length < 4 := by
      simp only [Reading.taken, List.length_append] at short
      omega
    have noBody := waiting.noBody partly
    simp only [Reading.taken, noBody, List.append_nil] at short ⊢
    refine Or.inl ⟨⟨reading.header ++ buffered, []⟩, ⟨short.le, fun _ => rfl, fun full => ?_⟩,
      by simp, ?_⟩
    · exact absurd full short.ne
    · simp only [poll, readExact_eq waiting.header, List.take_of_length_le short.le,
        List.drop_of_length_le short.le, short, if_true, noBody]
  · have headerFirst : reading.taken ++ buffered ++ coming =
        bigEndian (codec.encode message).length ++ (codec.encode message ++ more) := by
      rw [aligned, Codec.frame, List.append_assoc]
    obtain ⟨after, arrived, rest⟩ := split_front headerFirst (by simpa using short)
    obtain ⟨left, header, body, room⟩ := readExact_header waiting (length_bigEndian _) arrived
    rw [announced] at room
    have bodyRoom : reading.body.length ≤ (codec.encode message).length := by
      rcases room with empty | partly
      · simp [empty]
      · exact partly.le
    have notLong : ¬ limit < (codec.encode message).length := not_lt.mpr carries.fits
    by_cases pending : after.length < (codec.encode message).length
    · refine Or.inl ⟨⟨bigEndian (codec.encode message).length, after⟩,
        ⟨le_rfl, fun less => absurd less (by simp), fun _ => by rwa [announced]⟩,
        by rw [arrived]; rfl, ?_⟩
      simp only [poll, header, length_bigEndian, lt_irrefl, if_false, announced, notLong,
        readExact_eq bodyRoom, body, List.take_of_length_le pending.le,
        List.drop_of_length_le pending.le, pending, if_true]
    · obtain ⟨unread, rfl, _⟩ := split_front rest (not_lt.mp pending)
      refine Or.inr ⟨unread, by rw [arrived, Codec.frame, List.append_assoc], ?_⟩
      simp only [poll, header, length_bigEndian, lt_irrefl, if_false, announced, notLong,
        readExact_eq bodyRoom, body, List.take_left, List.drop_left, carries.restored]

/-- Polling a stream on which a whole frame has arrived returns its message. -/
theorem poll_arrived {reading : Reading} {buffered more : List UInt8} {message : ε}
    (carries : codec.Carries limit message) (bound : limit < 2 ^ 32) (waiting : reading.Waiting)
    (arrived : reading.taken ++ buffered = codec.frame message ++ more) :
    poll codec limit reading buffered = .ok (some message, .fresh, more) := by
  have aligned : reading.taken ++ buffered ++ [] = codec.frame message ++ more := by
    rw [List.append_nil, arrived]
  rcases poll_frame carries bound waiting aligned with
    ⟨later, laterWaiting, taken, polled⟩ | ⟨left, again, polled⟩
  · -- A read that waits has not taken a whole frame.
    exfalso
    rw [← taken, Codec.frame, List.append_assoc] at arrived
    obtain ⟨header, body⟩ := later
    rcases Nat.lt_or_eq_of_le laterWaiting.header with partly | full
    · obtain rfl : body = [] := laterWaiting.noBody partly
      have lengths := congrArg List.length arrived
      simp only [Reading.taken, List.append_nil, List.length_append, length_bigEndian]
        at lengths partly
      omega
    · obtain ⟨rfl, rfl⟩ := List.append_inj arrived (full.trans (length_bigEndian _).symm)
      have pending := laterWaiting.body full
      rw [ofBigEndian_bigEndian (lt_of_le_of_lt carries.fits bound)] at pending
      simp at pending
  · rw [polled, List.append_cancel_left (again.symm.trans arrived)]

/-- Polling a fresh read on a stream without bytes waits. -/
theorem poll_nothing (codec : Codec ε) (limit : Nat) :
    poll codec limit .fresh [] = .ok (none, .fresh, []) := rfl

end Framing
end Foundation
