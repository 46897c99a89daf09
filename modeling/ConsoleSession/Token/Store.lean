import ConsoleSession.Token.Decode

/-!
The one place that holds the access token. Every clearing starts a new epoch, and a write bound to
an epoch is dropped once that epoch is over.
-/

namespace ConsoleSession

structure TokenStore where
  token : Option String := none
  epoch : UInt64 := 0
  deriving DecidableEq, Repr

namespace TokenStore

def clear (s : TokenStore) : TokenStore :=
  ⟨none, s.epoch + 1⟩

/-- The empty text is no token: to set it is to clear. -/
def set (s : TokenStore) (token : String) : TokenStore :=
  if token.isEmpty then s.clear else { s with token := some token }

def accepts (s : TokenStore) (token : String) (epoch : UInt64) : Bool :=
  s.epoch == epoch && !token.isEmpty

/-- Writes the token if no clearing came since `epoch`, and says whether it did. -/
def setIfEpoch (s : TokenStore) (token : String) (epoch : UInt64) : Bool × TokenStore :=
  if s.accepts token epoch then (true, { s with token := some token }) else (false, s)

def decode (s : TokenStore) : Except DecodeError Claims :=
  match s.token with
  | none => .error .missing
  | some t => (Claims.decode t).mapError .malformed

end TokenStore

end ConsoleSession
