import ArtifactGroups.Document
import ArtifactGroups.Log

/-! The texts that a scan writes beside its matches: for people on the diagnostic stream,
and as log events. -/
namespace ArtifactGroups.Scan

def openingText (path : String) : String := "Opening index at: " ++ path ++ "\n"

def totalText (total : Nat) : String := "Total documents to scan: " ++ toString total ++ "\n"

def fieldText (field : Field) : String :=
  "Name: " ++ field.name ++ " | Value: " ++ field.value.shown ++ "\n"

/-- One line for each stored value between a header and a footer. -/
def documentText (document : Document) : String :=
  "--- DEBUG: Fields in Document " ++ toString document.ordinal ++ " ---\n"
    ++ String.join (document.fields.map fieldText)
    ++ "-----------------------------------\n"

def progressMarker : String := "."

def completionText : String := "\nDone.\n"

def logTarget : String := "vendor_alias::scan"

def progressEvent (ordinal matched : Nat) : Event where
  level := .debug
  target := logTarget
  message := "Progress"
  fields := [("ordinal", toString ordinal), ("matched", toString matched)]

def closedEvent (scanned matched : Nat) : Event where
  level := .info
  target := logTarget
  message := "Output closed, scan stopped"
  fields := [("scanned", toString scanned), ("matched", toString matched)]

def finishedEvent (location : String) (total scanned matched : Nat) : Event where
  level := .info
  target := logTarget
  message := "Scan finished"
  fields := [("location", location), ("total", toString total), ("scanned", toString scanned),
    ("matched", toString matched)]

end ArtifactGroups.Scan
