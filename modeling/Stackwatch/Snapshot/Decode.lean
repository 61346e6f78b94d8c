import Stackwatch.Gzip.Member
import Stackwatch.Snapshot.Basic

/-!
# Reading snapshots

Profiling engines write encoded profiles, plain or in a gzip envelope. The two cannot be confused:
no encoded profile starts with the first two bytes of an envelope.
-/

namespace Stackwatch.Snapshot

/-- Why bytes are no snapshot. -/
inductive ReadError where
  | malformed (fault : Wire.Fault)
  | envelope (fault : Gzip.Fault)
  | dangling (reference : Dangling)
  deriving DecidableEq, Repr, Inhabited

def ReadError.message : ReadError → String
  | .malformed fault =>
      "malformed pprof data: failed to decode Protobuf message: " ++ fault.message
  | .envelope fault => "decompressing profile: " ++ fault.message
  | .dangling reference => reference.message

/-- The snapshot in a plain encoded profile. -/
def ofEncoded (bytes : Bytes) : Except ReadError Snapshot := do
  let profile ← (Encoded.Profile.decode bytes).mapError .malformed
  (resolve profile).mapError .dangling

/-- The snapshot in an encoded profile, plain or in an envelope. -/
def read (bytes : Bytes) : Except ReadError Snapshot :=
  if Gzip.hasMagic bytes then do
    let contents ← (Gzip.unpack bytes).mapError .envelope
    ofEncoded contents
  else
    ofEncoded bytes

end Stackwatch.Snapshot
