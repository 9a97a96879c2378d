import ComposeHarness.Host
import ComposeHarness.Poll
import ComposeHarness.Text.Quoted

/-!
# Polling a URL

The poll converges when the response has the expected status. A request that takes longer than the
whole poll may take counts as failed.
-/
namespace ComposeHarness

/-- How much of a body is shown in messages. -/
def Response.previewLength : Nat := 256

/-- The response as a timeout tells of it. -/
def Response.describe (r : Response) : String :=
  let preview := String.ofList (r.body.toList.take previewLength)
  "HTTP " ++ toString r.status ++ " " ++ Text.quoted preview ++
    (if r.body.length ≤ previewLength then "" else "...")

structure HttpProbe where
  url : String
  expected : Nat
  requestTimeout : Duration
  deriving Repr, DecidableEq

namespace HttpProbe

variable {σ : Type}

def describe (p : HttpProbe) : String :=
  "GET " ++ p.url ++ " (expecting " ++ toString p.expected ++ ")"

def observe (p : HttpProbe) (r : Response) : Observation Response :=
  if r.status = p.expected then .converged r else .pending r

def probe (host : Host σ) (p : HttpProbe) : Probe σ Response := fun world =>
  let span := (host.request p.url).run .zero world
  if p.requestTimeout < span.spent then
    (.after p.requestTimeout (.error (.http "operation timed out")), span.world)
  else (.after span.spent (span.value.map p.observe), span.world)

/-- Requests the URL until it answers with the expected status, and gives the body. -/
def fetch (host : Host σ) (url : String) (expected : Nat) (spec : PollSpec) : Act σ String := do
  let p : HttpProbe := ⟨url, expected, spec.timeout⟩
  let r ← ExceptT.mk (Poll.timed p.describe spec Response.describe (p.probe host))
  return r.body

end HttpProbe
end ComposeHarness
