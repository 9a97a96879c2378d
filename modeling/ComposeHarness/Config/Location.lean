import ComposeHarness.Config.Decoding
import ComposeHarness.Host
import ComposeHarness.Text.Blank

/-!
# Where the configuration is

A variable may name the configuration file. Otherwise it lies in the configuration directory of the
account, in a directory of its own.
-/
namespace ComposeHarness.Config

variable {σ : Type}

/-- The value of a variable that is set and not empty. -/
def nonempty (host : Host σ) (name : String) (world : σ) : Option String :=
  (host.lookupVariable name world).filter fun value => !value.isEmpty

def home (host : Host σ) (world : σ) : Option Path :=
  match nonempty host "HOME" world with
  | some home => some ⟨home⟩
  | none => host.accountHome world

/-- The directory for the configuration of all programs. A relative one in its variable does not
count. -/
def baseDirectory (host : Host σ) (world : σ) : Option Path :=
  match ((nonempty host "XDG_CONFIG_HOME" world).map Path.mk).filter Path.isAbsolute with
  | some dir => some dir
  | none => (home host world).map (Path.join · ⟨".config"⟩)

/-- The directory for the configuration of this program. -/
def directory (host : Host σ) (world : σ) : Option Path :=
  (baseDirectory host world).map (Path.join · ⟨"compose-e2e"⟩)

/-- The configuration file; a variable that is not blank names it. -/
def location (host : Host σ) (world : σ) : Option Path :=
  let explicit := host.lookupVariable "COMPOSE_E2E_CONFIG" world
  match explicit.filter fun value => !Text.isAllBlank value with
  | some path => some ⟨path⟩
  | none => (directory host world).map (Path.join · ⟨"config.toml"⟩)

/-- Reads a configuration file. -/
def loadFrom (host : Host σ) (path : Path) (world : σ) : Except Failure Config :=
  match host.readText path world with
  | .ok text => parse text
  | .error cause => .error (.unreadable path.text cause.message)

/-- Reads the configuration file; if there is none, everything has its default. -/
def load (host : Host σ) (world : σ) : Except Failure Config :=
  match location host world with
  | some path => if host.pathExists path world then loadFrom host path world else .ok {}
  | none => .ok {}

end ComposeHarness.Config
