import Stackwatch.Snapshot.Encoded
import Stackwatch.Wire.Writer

/-!
# Writing encoded profiles

The usual form of an encoded profile: its fields in the order of their tags.
-/

namespace Stackwatch.Snapshot.Encoded

open Stackwatch.Wire

def ValueType.encode (column : ValueType) : Bytes :=
  writeSigned 1 column.kind ++ writeSigned 2 column.unit

def Sample.encode (sample : Sample) : Bytes :=
  writePacked 1 sample.locationIds ++ writePacked 2 (sample.values.map unsigned64)

def Line.encode (line : Line) : Bytes :=
  writeUnsigned 1 line.functionId ++ writeSigned 2 line.line

def Location.encode (location : Location) : Bytes :=
  writeUnsigned 1 location.id ++ writeUnsigned 3 location.address ++
    location.lines.flatMap fun line => writeDelimited 4 line.encode

def Function.encode (function : Function) : Bytes :=
  writeUnsigned 1 function.id ++ writeSigned 2 function.name ++
    writeSigned 3 function.systemName ++ writeSigned 4 function.fileName

/-- The bytes of a profile. -/
def Profile.encode (profile : Profile) : Bytes :=
  (profile.sampleTypes.flatMap fun column => writeDelimited 1 column.encode) ++
    (profile.samples.flatMap fun sample => writeDelimited 2 sample.encode) ++
    (profile.locations.flatMap fun location => writeDelimited 4 location.encode) ++
    (profile.functions.flatMap fun function => writeDelimited 5 function.encode) ++
    profile.strings.flatMap (writeText 6) ++
    writeSigned 9 profile.timeNanos ++ writeSigned 10 profile.durationNanos

end Stackwatch.Snapshot.Encoded
