import ComposeHarness.Inspection.Decoding

/-!
# Writing mounts

A mount is written as an object with all its fields, under the names that an inspection gives them;
what it does not say is null.
-/
namespace ComposeHarness

open Json (Value)

def Mount.encode (m : Mount) : Value :=
  .object
    [(some "Type", .text (some m.type)),
      (some "Source", (m.source.map fun s => .text (some s)).getD .null),
      (some "Target", .text (some m.target)),
      (some "ReadOnly", (m.readOnly.map .bool).getD .null)]

end ComposeHarness
