import ParkingSystem.RequestFrame

/-!
# The client's side of a response

TcpServer sends the 64 bytes of a `database_to_tcp_message_t` in a loop, because a
`send` may take only a part of them. `tcp_process_run` of the BBG client calls `recv`
once: `response_delivery_iff` says for which splits of the stream that is enough.
-/

namespace ParkingSystem

/-- A `database_to_tcp_message_t` byte by byte. -/
structure ResponseFrame where
  bytes : List UInt8
  length_eq : bytes.length = sizeofDatabaseToTcpMessage

-- ---------------------------------------------------------------------------
-- Sending
-- ---------------------------------------------------------------------------

inductive Sent where
  | bytes (count : Nat)
  | interrupted
  | failed

/-- The send loop of `response_reader_loop`: what goes into the connection from here on,
and `total_bytes_sent` at the end. -/
def sendResponse (response : List UInt8) (totalBytesSent : Nat) : List Sent → List UInt8 × Nat
  | [] => ([], totalBytesSent)
  | call :: calls =>
    if totalBytesSent < sizeofDatabaseToTcpMessage then
      match call with
      | .bytes count =>
        let sent := (response.drop totalBytesSent).take count
        let (rest, total) := sendResponse response (totalBytesSent + sent.length) calls
        (sent ++ rest, total)
      | .interrupted => sendResponse response totalBytesSent calls
      | .failed => ([], totalBytesSent)
    else ([], totalBytesSent)

/-- A response that was written completely, and the pieces in which `recv` returns it. -/
structure Delivery where
  response : ResponseFrame
  calls : List Sent
  written : List UInt8
  complete : sendResponse response.bytes 0 calls = (written, sizeofDatabaseToTcpMessage)
  chunks : List (List UInt8)
  nonempty : ∀ chunk ∈ chunks, chunk ≠ []
  flatten_eq : chunks.flatten = written

-- ---------------------------------------------------------------------------
-- Receiving
-- ---------------------------------------------------------------------------

inductive PipeRead where
  | closed
  | interrupted
  | failed
  | data (bytes : List UInt8)

/-- What comes back on a connection: a response, or whatever else the first `recv`
returns, `none` for -1. -/
inductive Answer where
  | delivered (delivery : Delivery)
  | other (result : Option (List UInt8))

/-- One pass of the loop of `tcp_process_run`: how its calls fare. -/
structure Round where
  pipe : PipeRead
  connect : Bool
  /-- `send` took the whole request. -/
  send : Bool
  answer : Answer

inductive Event where
  | pipeClosed
  | pipeFailed
  | incompleteRequest
  | requestReceived (requestId : UInt64)
  | connectFailed
  | sendFailed (requestId : UInt64)
  | receiveFailed (requestId : UInt64)
  | startParkingResponse (response : ResponseFrame)
  | endParkingResponse (response : ResponseFrame)
  | unknownAction (response : ResponseFrame)
  | disconnected
  | stopped

def Answer.recv : Answer → Option (List UInt8)
  | .delivered delivery => delivery.chunks.head?
  | .other result => result

def Answer.response (answer : Answer) : Option ResponseFrame :=
  answer.recv.bind fun bytes =>
    if h : bytes.length = sizeofDatabaseToTcpMessage then some ⟨bytes, h⟩ else none

section Client

def serveRequest (request : Frame) (round : Round) : List Event :=
  let requestId := request.word64 0
  .requestReceived requestId ::
    if !round.connect then [.connectFailed]
    else if !round.send then [.sendFailed requestId, .disconnected]
    else
      match round.answer.response with
      | none => [.receiveFailed requestId, .disconnected]
      | some response =>
        match (request.message []).action with
        | .startParking => [.startParkingResponse response, .disconnected]
        | .endParking => [.endParkingResponse response, .disconnected]
        | _ => [.unknownAction response, .disconnected]

def tcpProcessRun : List Round → List Event
  | [] => []
  | round :: rounds =>
    match round.pipe with
    | .closed => [.pipeClosed, .stopped]
    | .interrupted => tcpProcessRun rounds
    | .failed => [.pipeFailed, .stopped]
    | .data bytes =>
      if h : bytes.length = sizeofTcpToDatabaseMessage then
        serveRequest ⟨bytes, h⟩ round ++ tcpProcessRun rounds
      else [.incompleteRequest, .stopped]

/-- The answers that the loop comes to wait for. -/
def awaited : List Round → List Answer
  | [] => []
  | round :: rounds =>
    match round.pipe with
    | .closed | .failed => []
    | .interrupted => awaited rounds
    | .data bytes =>
      if bytes.length = sizeofTcpToDatabaseMessage then
        if round.connect && round.send then round.answer :: awaited rounds else awaited rounds
      else []

end Client

theorem sendResponse_eq {response written : List UInt8} {total : Nat} {calls : List Sent}
    (h : sendResponse response total calls = (written, sizeofDatabaseToTcpMessage))
    (hlength : response.length = sizeofDatabaseToTcpMessage) (htotal : total ≤ response.length) :
    written = response.drop total := by
  induction calls generalizing total written with
  | nil =>
    obtain ⟨rfl, rfl⟩ := Prod.mk.inj h
    rw [List.drop_of_length_le hlength.le]
  | cons call calls ih =>
    by_cases hmore : total < sizeofDatabaseToTcpMessage
    · cases call with
      | bytes count =>
        simp only [sendResponse, hmore, if_true] at h
        obtain ⟨rfl, htotal'⟩ := Prod.mk.inj h
        have hroom : total + ((response.drop total).take count).length ≤ response.length := by
          rw [List.length_take, List.length_drop]
          omega
        have hrest := ih (Prod.ext rfl htotal') hroom
        rw [← List.drop_drop] at hrest
        have hall := List.prefix_iff_eq_append.mp (List.take_prefix count (response.drop total))
        exact (congrArg _ hrest).trans hall
      | interrupted =>
        simp only [sendResponse, hmore, if_true] at h
        exact ih h htotal
      | failed =>
        simp only [sendResponse, hmore, if_true] at h
        obtain ⟨-, rfl⟩ := Prod.mk.inj h
        exact absurd hmore (Nat.lt_irrefl _)
    · simp only [sendResponse, hmore, if_false] at h
      obtain ⟨rfl, -⟩ := Prod.mk.inj h
      rw [List.drop_of_length_le]
      omega

theorem Delivery.written_eq (d : Delivery) : d.written = d.response.bytes := by
  have h := sendResponse_eq d.complete d.response.length_eq (Nat.zero_le _)
  rwa [List.drop_zero] at h

def Delivery.whole (d : Delivery) : Delivery where
  response := d.response
  calls := d.calls
  written := d.written
  complete := d.complete
  chunks := [d.written]
  nonempty := by
    rintro chunk hchunk hnil
    obtain rfl := List.mem_singleton.mp hchunk
    have hlength := d.response.length_eq
    rw [← d.written_eq, hnil] at hlength
    cases hlength
  flatten_eq := by simp

def Answer.whole : Answer → Answer
  | .delivered delivery => .delivered delivery.whole
  | .other result => .other result

def Round.whole (round : Round) : Round := { round with answer := round.answer.whole }

structure DeliversResponses (rounds : List Round) : Prop where
  obtained : ∀ delivery : Delivery, .delivered delivery ∈ awaited rounds →
    (Answer.delivered delivery).response = some delivery.response
  same : tcpProcessRun rounds = tcpProcessRun (rounds.map Round.whole)

-- ---------------------------------------------------------------------------
-- One piece or several
-- ---------------------------------------------------------------------------

section Pieces

variable {d : Delivery} {rounds : List Round}

theorem Delivery.response_iff (d : Delivery) :
    (Answer.delivered d).response = some d.response ↔ d.chunks.length = 1 := by
  have hlength := d.response.length_eq
  have hflatten := d.flatten_eq
  rw [d.written_eq] at hflatten
  rw [Answer.response, Answer.recv]
  constructor
  · intro h
    obtain ⟨chunk, hchunk, hfull⟩ := Option.bind_eq_some_iff.mp h
    obtain ⟨rest, hchunks⟩ : ∃ rest, d.chunks = chunk :: rest := List.head?_eq_some_iff.mp hchunk
    split at hfull
    · rename_i hsize
      -- nothing is left for a second piece
      rw [hchunks, List.flatten_cons] at hflatten
      have hlengths := congrArg List.length hflatten
      rw [List.length_append] at hlengths
      have hempty : rest.flatten = [] := List.eq_nil_of_length_eq_zero (by omega)
      cases rest with
      | nil => rw [hchunks]; rfl
      | cons second rest =>
        have hsecond : second ≠ [] := d.nonempty second (by rw [hchunks]; simp)
        exact absurd (List.flatten_eq_nil_iff.mp hempty second List.mem_cons_self) hsecond
    · cases hfull
  · intro h
    obtain ⟨chunk, hchunks⟩ := List.length_eq_one_iff.mp h
    obtain rfl : chunk = d.response.bytes := by simpa [hchunks] using hflatten
    simp [hchunks, hlength]

theorem Delivery.whole_response (d : Delivery) :
    (Answer.delivered d.whole).response = some d.response :=
  d.whole.response_iff.mpr rfl

theorem Answer.whole_response {answer : Answer}
    (h : ∀ delivery : Delivery, answer = .delivered delivery → delivery.chunks.length = 1) :
    answer.whole.response = answer.response := by
  cases answer with
  | delivered d => exact d.whole_response.trans (d.response_iff.mpr (h d rfl)).symm
  | other result => rfl

theorem serveRequest_whole (request : Frame) {round : Round}
    (h : (round.connect && round.send) = true →
      round.answer.whole.response = round.answer.response) :
    serveRequest request round.whole = serveRequest request round := by
  obtain ⟨pipe, connect, send, answer⟩ := round
  cases connect with
  | false => rfl
  | true =>
    cases send with
    | false => rfl
    | true => simp only [serveRequest, Round.whole, h rfl]

theorem tcpProcessRun_whole
    (h : ∀ delivery : Delivery, .delivered delivery ∈ awaited rounds → delivery.chunks.length = 1) :
    tcpProcessRun rounds = tcpProcessRun (rounds.map Round.whole) := by
  induction rounds with
  | nil => rfl
  | cons round rounds ih =>
    obtain ⟨pipe, connect, send, answer⟩ := round
    cases pipe with
    | closed => rfl
    | failed => rfl
    | interrupted => exact ih h
    | data bytes =>
      rw [List.map_cons, tcpProcessRun, tcpProcessRun]
      simp only [awaited, Round.whole] at h ⊢
      by_cases hsize : bytes.length = sizeofTcpToDatabaseMessage
      · rw [if_pos hsize] at h
        rw [dif_pos hsize, dif_pos hsize]
        let round : Round := ⟨.data bytes, connect, send, answer⟩
        have hround : serveRequest ⟨bytes, hsize⟩ round.whole = serveRequest ⟨bytes, hsize⟩ round := by
          apply serveRequest_whole
          intro (hsent : (connect && send) = true)
          apply Answer.whole_response
          rintro d (rfl : answer = .delivered d)
          rw [if_pos hsent] at h
          exact h d List.mem_cons_self
        have hrest : ∀ d : Delivery, .delivered d ∈ awaited rounds → d.chunks.length = 1 := by
          intro d hd
          split at h
          · exact h d (List.mem_cons_of_mem _ hd)
          · exact h d hd
        rw [ih hrest]
        exact congrArg (· ++ _) hround.symm
      · rw [dif_neg hsize, dif_neg hsize]

end Pieces

/-- `tcp_process_run` gets the responses that are sent to it exactly if each comes in one piece. -/
theorem response_delivery_iff (rounds : List Round) : DeliversResponses rounds ↔
    ∀ delivery : Delivery, .delivered delivery ∈ awaited rounds → delivery.chunks.length = 1 := by
  constructor
  · intro h d hd
    exact d.response_iff.mp (h.obtained d hd)
  · intro h
    exact ⟨fun d hd => d.response_iff.mpr (h d hd), tcpProcessRun_whole h⟩

/-- All zeros: a SUCCESS for request 0. -/
def zeroResponse : ResponseFrame := ⟨List.replicate 64 0, rfl⟩

/-- One `send` takes all of it, and `recv` returns the first 32 bytes. -/
def splitDelivery : Delivery where
  response := zeroResponse
  calls := [.bytes 64]
  written := zeroResponse.bytes
  complete := by decide +kernel
  chunks := [List.replicate 32 0, List.replicate 32 0]
  nonempty := by decide
  flatten_eq := by decide

def splitRounds : List Round := [⟨.data (List.replicate 64 0), true, true, .delivered splitDelivery⟩]

theorem responses_not_always_delivered : ¬ ∀ rounds, DeliversResponses rounds := by
  intro h
  have hresponse := (h splitRounds).obtained splitDelivery (by
    simp [splitRounds, awaited, sizeofTcpToDatabaseMessage])
  exact absurd (splitDelivery.response_iff.mp hresponse) (by decide)

end ParkingSystem
