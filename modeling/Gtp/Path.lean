/-
# Path state (`gtp-path`)

Three small machines that a connection owns.

* The connection state.  `transition_to` refuses a transition that the table does not have; every
  caller drops the error, so `moveTo` is what happens: the state stays.
* The amplification limiter of one path: until the path is validated no more than `factor` times the
  bytes received may be sent to it.  The sums saturate.
* The path validator, which holds at most one outstanding challenge.  Starting another one forgets
  the first; an answer has to come from the address that was challenged, with the same bytes, within
  three seconds.

How they are used is in `Gtp.Core.State`; here they are as the source has them, and nothing is
proved yet.
-/
import Gtp.Wire.Frame

namespace Gtp

/-! ## 1. Connection state (`state_machine.rs`) -/

/-- `ConnectionState`. -/
inductive ConnectionState where
  | initial
  | handshaking
  | validated
  | established
  | draining
  | closed
  deriving DecidableEq, Repr

/-- `ConnectionState::transition_to`: the state afterwards; an illegal transition leaves it. -/
def ConnectionState.transitionTo : ConnectionState → ConnectionState → Result ConnectionState
  | .initial, .handshaking => .ok .handshaking
  | .initial, .validated => .ok .validated
  | .initial, .closed => .ok .closed
  | .handshaking, .validated => .ok .validated
  | .validated, .established => .ok .established
  | .established, .draining => .ok .draining
  | .established, .closed => .ok .closed
  | .draining, .closed => .ok .closed
  | .handshaking, .closed => .ok .closed
  | .validated, .closed => .ok .closed
  | _, _ => .error (.protocolViolation "Illegal state transition")

/-- The state after `let _ = state.transition_to(next)`. -/
def ConnectionState.moveTo (s next : ConnectionState) : ConnectionState :=
  match s.transitionTo next with
  | .ok s' => s'
  | .error _ => s

/-! ## 2. Anti-amplification (`anti_amplification.rs`) -/

/-- `AntiAmplificationLimiter`. -/
structure AntiAmplificationLimiter where
  bytesReceived : Nat
  bytesSent : Nat
  factor : Nat
  validated : Bool
  deriving DecidableEq, Repr

namespace AntiAmplificationLimiter

/-- `AntiAmplificationLimiter::with_factor`. -/
def withFactor (factor : Nat) : AntiAmplificationLimiter := ⟨0, 0, max factor 1, false⟩

/-- `set_factor`. -/
def setFactor (a : AntiAmplificationLimiter) (factor : Nat) : AntiAmplificationLimiter :=
  { a with factor := max factor 1 }

/-- `on_bytes_received`. -/
def onBytesReceived (a : AntiAmplificationLimiter) (bytes : Nat) : AntiAmplificationLimiter :=
  { a with bytesReceived := satAdd a.bytesReceived bytes }

/-- `can_send`. -/
def canSend (a : AntiAmplificationLimiter) (bytes : Nat) : Bool :=
  a.validated || decide (satAdd a.bytesSent bytes ≤ satMul a.bytesReceived a.factor)

/-- `on_bytes_sent`. -/
def onBytesSent (a : AntiAmplificationLimiter) (bytes : Nat) : AntiAmplificationLimiter :=
  if a.validated then a else { a with bytesSent := satAdd a.bytesSent bytes }

/-- `mark_validated`. -/
def markValidated (a : AntiAmplificationLimiter) : AntiAmplificationLimiter :=
  { a with validated := true }

end AntiAmplificationLimiter

/-! ## 3. Path validation (`path_validator.rs`) -/

/-- `PATH_CHALLENGE_TIMEOUT`. -/
def pathChallengeTimeout : Duration := Duration.fromSecs 3

/-- `PathValidator`: at most one challenge is pending. -/
structure PathValidator where
  pendingChallenge : Option (SocketAddr × Bytes 8 × MonotonicTime)
  deriving DecidableEq

namespace PathValidator

/-- `PathValidator::new`. -/
def new : PathValidator := ⟨none⟩

/-- `start_challenge`. -/
def startChallenge (_v : PathValidator) (newAddr : SocketAddr) (nonce : Bytes 8)
    (now : MonotonicTime) : PathValidator := ⟨some (newAddr, nonce, now)⟩

/-- `expire`. -/
def expire (v : PathValidator) (now : MonotonicTime) : PathValidator :=
  match v.pendingChallenge with
  | some (_, _, startTime) => if pathChallengeTimeout < now - startTime then ⟨none⟩ else v
  | none => v

/-- `pending_addr`. -/
def pendingAddr (v : PathValidator) : Option SocketAddr := v.pendingChallenge.map Prod.fst

/-- `validate_response`: whether the response answers the challenge, which it then consumes. -/
def validateResponse (v : PathValidator) (addr : SocketAddr) (responseData : Bytes 8)
    (now : MonotonicTime) : Bool × PathValidator :=
  match v.pendingChallenge with
  | some (pendingAddr, expectedNonce, startTime) =>
    if addr = pendingAddr ∧ responseData = expectedNonce ∧ now - startTime ≤ pathChallengeTimeout
    then (true, ⟨none⟩)
    else (false, v)
  | none => (false, v)

end PathValidator

end Gtp
