import DexAdapter.Entities
import DexAdapter.Lib.Runs
import DexAdapter.Lib.TtlCache

/-!
# The token cache

`MultiversXApiService.getToken` and the job `CacheWarmerService.warmTokens` write the same keys of
one cache, from several processes. Each call is cut where the source awaits: `getToken` reads the
cache, asks the API on a miss and writes the answer; `warmTokens` asks the API and writes the
answer, token after token. `TokenCache.step` takes one of these steps in one of the calls under way.
Times are milliseconds, times to live are seconds as in the source.
-/

namespace DexAdapter

/-! ## Times to live -/

namespace Constants

def oneMinute : Nat := 60
def oneDay : Nat := 24 * 60 * 60

end Constants

structure CacheInfo where
  key : String
  ttl : Nat

def CacheInfo.Token (identifier : String) : CacheInfo where
  key := "token:" ++ identifier
  ttl := Constants.oneDay

/-! ## The API -/

/-- What the token API answers: a token, 404, or another error. -/
inductive TokenResponse where
  | token (data : Token)
  | notFound
  | failed (error : JsError)
  deriving DecidableEq, Repr

/-- 404 is no error: it is the answer `null`. -/
def MultiversXApiService.getTokenRaw : TokenResponse → Result (Option Token)
  | .token data => .ok (some data)
  | .notFound => .ok none
  | .failed error => .error error

/-- An answer to write; `null` is `none`. `given` is the place in the run at which the API gave
it, which no code reads. -/
structure TokenAnswer where
  token : Option Token
  given : Nat
  deriving DecidableEq, Repr

/-! ## Calls -/

/-- A call under way. -/
inductive TokenCall where
  /-- `getToken`, before it reads the cache -/
  | reading (identifier : String)
  /-- `getToken`, after a miss -/
  | asking (identifier : String)
  /-- `getToken`, before it writes -/
  | writing (identifier : String) (tokenRaw : TokenAnswer)
  /-- `getToken` has returned, or has thrown -/
  | returned (result : Result (Option Token))
  /-- `warmTokens`, with the tokens of its batches that are left -/
  | warming (tokens : List String)
  /-- `warmTokens`, before it writes the answer for a token -/
  | warmWriting (tokenId : String) (token : TokenAnswer) (rest : List String)
  deriving DecidableEq

/-- The arguments of `cacheService.set`. -/
structure CacheWrite where
  key : String
  answer : TokenAnswer
  ttl : Nat

namespace TokenCall

/-- The write that the call comes to next. -/
def nextWrite : TokenCall → Option CacheWrite
  | writing identifier tokenRaw => some
      { key := (CacheInfo.Token identifier).key
        answer := tokenRaw
        ttl := if tokenRaw.token.isSome then (CacheInfo.Token identifier).ttl
          else Constants.oneMinute }
  | warmWriting tokenId token _ => some
      { key := (CacheInfo.Token tokenId).key
        answer := token
        ttl := (CacheInfo.Token tokenId).ttl }
  | _ => none

def afterWrite : TokenCall → TokenCall
  | writing _ tokenRaw => returned (.ok tokenRaw.token)
  | warmWriting _ _ rest => warming rest
  | call => call

/-- A write that throws: `getToken` throws, `warmTokens` logs and goes on. -/
def afterFailedWrite (error : JsError) : TokenCall → TokenCall
  | writing _ _ => returned (.error error)
  | warmWriting _ _ rest => warming rest
  | call => call

/-- What `cacheService.get` makes of a call of `getToken`. -/
def afterRead (identifier : String) : Option TokenAnswer → TokenCall
  | some cachedToken => returned (.ok cachedToken.token)
  | none => asking identifier

/-- The answer of the API reaches the call; `none` when the call is not waiting for one. -/
def afterAnswer (given : Nat) (response : TokenResponse) : TokenCall → Option TokenCall
  | asking identifier =>
    match MultiversXApiService.getTokenRaw response with
    | .ok tokenRaw => some (writing identifier { token := tokenRaw, given := given })
    | .error error => some (returned (.error error))
  | warming (tokenId :: rest) =>
    match MultiversXApiService.getTokenRaw response with
    | .ok token => some (warmWriting tokenId { token := token, given := given } rest)
    | .error _ => some (warming rest)
  | _ => none

end TokenCall

/-! ## The system -/

/-- The clock, the cache and the calls under way. `steps` is the number of steps taken. -/
structure TokenCache where
  now : Nat
  steps : Nat
  cache : TtlCache.Cache String TokenAnswer
  calls : List TokenCall

namespace TokenCache

/-- Milliseconds of a time to live. -/
def milliseconds (ttl : Nat) : Nat := 1000 * ttl

def initial : TokenCache where
  now := 0
  steps := 0
  cache _ := none
  calls := []

inductive Action where
  /-- time passes -/
  | wait (ms : Nat)
  /-- an entry goes before its time -/
  | forget (key : String)
  | getToken (identifier : String)
  | warmTokens (tokens : List String)
  | read (i : Nat)
  | query (i : Nat) (response : TokenResponse)
  | write (i : Nat)
  | failWrite (i : Nat) (error : JsError)
  deriving DecidableEq

variable (s : TokenCache)

/-- What call `i` does when it is at the point that `move` is about. -/
def move (i : Nat) (next : TokenCall → Option TokenCall) : Option TokenCache := do
  let call ← s.calls[i]?
  let call ← next call
  pure { s with calls := s.calls.set i call }

def act : Action → Option TokenCache
  | .wait ms => some { s with now := s.now + ms }
  | .forget key => some { s with cache := TtlCache.forget s.cache key }
  | .getToken identifier => some { s with calls := s.calls ++ [.reading identifier] }
  | .warmTokens tokens => some { s with calls := s.calls ++ [.warming tokens] }
  | .read i => s.move i fun
    | .reading identifier =>
      some (.afterRead identifier (TtlCache.get s.cache s.now (CacheInfo.Token identifier).key))
    | _ => none
  | .query i response => s.move i (TokenCall.afterAnswer s.steps response)
  | .write i => do
    let call ← s.calls[i]?
    let w ← call.nextWrite
    pure { s with
      cache := TtlCache.set s.cache s.now w.key w.answer (milliseconds w.ttl)
      calls := s.calls.set i call.afterWrite }
  | .failWrite i error =>
    s.move i fun call => call.nextWrite.map fun _ => call.afterFailedWrite error

def step (a : Action) : Option TokenCache :=
  (s.act a).map fun s' => { s' with steps := s.steps + 1 }

end TokenCache

end DexAdapter
