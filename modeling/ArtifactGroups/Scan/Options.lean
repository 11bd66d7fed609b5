import ArtifactGroups.Allowlist
import ArtifactGroups.Coordinate
import ArtifactGroups.Error

/-! What a scan selects and what it reports on the way. -/
namespace ArtifactGroups.Scan

def defaultInterval : Nat := 5000000

structure Options where
  /-- Documents between two progress markers. -/
  markEvery : Nat := defaultInterval
  /-- Whether the fields of the first document are shown. -/
  showFirst : Bool := true
  /-- Whether all diagnostics are left out. -/
  quiet : Bool := false
  fields : FieldNames := {}
  allowed : Allowlist := .standard
  deriving DecidableEq

namespace Options

/-- Markers need an interval to be counted in. -/
def ensureValid (options : Options) : Except Error Unit :=
  if options.markEvery = 0 then
    .error (.badOptions "progress interval must be greater than zero")
  else .ok ()

def match? (options : Options) (document : Document) : Option Coordinate :=
  (document.coordinate? options.fields).filter (options.allowed.allows ·.group)

def shows (options : Options) (ordinal : Nat) : Bool :=
  ordinal == 0 && options.showFirst && !options.quiet

/-- Whether progress is reported after the document at this ordinal: at every multiple of
the interval except the first ordinal. -/
def marks (options : Options) (ordinal : Nat) : Bool :=
  ordinal != 0 && ordinal % options.markEvery == 0

end Options

end ArtifactGroups.Scan
