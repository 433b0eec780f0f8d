/-
# What can go wrong with a dictionary

A dictionary can fail its users in three ways: it does not know what is asked for (`DictionaryError`),
its text breaks a rule (`SourceError`, which points at a line), or its file cannot be had
(`FileError`).
-/
import Radius.Attribute.Error

namespace Radius

/-- Why a vendor attribute cannot be found, built or described. -/
inductive DictionaryError where
  /-- No vendor has this name or number. -/
  | unknownVendor (text : String)
  /-- The vendor's table has no attribute of this name. -/
  | unknownAttribute (vendor name : String)
  /-- A tag was given for an attribute that takes none. -/
  | unexpectedTag (name : String)
  /-- What follows the last colon of an attribute name is no tag. -/
  | unreadableTag (text : String)
  /-- A vendor's table was asked about an attribute of another vendor. -/
  | otherVendor (expected found : UInt32)
  /-- The value does not suit the attribute. -/
  | badAttribute (error : AttributeError)
deriving DecidableEq

/-- The cause in words. -/
def DictionaryError.message : DictionaryError → String
  | unknownVendor text => "Unknown vendor: " ++ text
  | unknownAttribute vendor name => "Vendor " ++ vendor ++ " has no attribute " ++ name
  | unexpectedTag name => "Attribute " ++ name ++ " does not take a tag"
  | unreadableTag text => "Invalid tag in " ++ Text.quote text
  | otherVendor expected found => s!"Attribute belongs to vendor {found}, not {expected}"
  | badAttribute error => error.message

/-- What a line of dictionary text does wrong. -/
inductive SourceFault where
  /-- A directive has too few fields; `field` is the first that is missing. -/
  | missingField (directive field : String)
  /-- No number, or one that is out of range. -/
  | invalidNumber (text : String)
  /-- Attribute code 0 is reserved. -/
  | reservedCode (name : String)
  /-- A vendor that has not been declared. -/
  | unknownVendor (name : String)
  /-- A value of an attribute that has not been declared. -/
  | unknownAttribute (name : String)
  /-- A named value for an attribute that is no integer. -/
  | valueForNonInteger (name value : String)
  /-- The name or the code is taken. -/
  | duplicateAttribute (name : String) (code : UInt8)
  /-- The vendor's name or number is taken by another vendor. -/
  | duplicateVendor (name : String) (id : UInt32)
  /-- An attribute that belongs to no vendor. -/
  | outsideBlock (name : String)
  /-- A vendor whose attributes are not framed by one octet each of type and length. -/
  | unsupportedFormat (vendor format : String)
  /-- The end of a block that is not the open one. -/
  | mismatchedEnd (expected found : String)
  /-- A block that is still open where it may not be. -/
  | unclosedBlock (name : String)
deriving DecidableEq

/-- The fault in words. -/
def SourceFault.message : SourceFault → String
  | missingField directive field => directive ++ " is missing its " ++ field
  | invalidNumber text => "invalid number " ++ Text.quote text
  | reservedCode name => "attribute " ++ name ++ " uses reserved code 0"
  | unknownVendor name => "unknown vendor " ++ name
  | unknownAttribute name => "VALUE refers to unknown attribute " ++ name
  | valueForNonInteger name value =>
    "VALUE " ++ value ++ " given for non-integer attribute " ++ name
  | duplicateAttribute name code => s!"duplicate attribute {name} (code {code})"
  | duplicateVendor name id => s!"vendor {name} ({id}) conflicts with an existing vendor"
  | outsideBlock name =>
    "ATTRIBUTE " ++ name ++ " outside a BEGIN-VENDOR block and without a vendor field"
  | unsupportedFormat vendor format => "vendor " ++ vendor ++ " uses unsupported " ++ format
  | mismatchedEnd expected found =>
    "END-VENDOR " ++ found ++ " does not close BEGIN-VENDOR " ++ expected
  | unclosedBlock name => "BEGIN-VENDOR " ++ name ++ " is never closed"

/-- A fault in dictionary text and its place. -/
structure SourceError where
  /-- The number of the offending line, counted from one. -/
  line : Nat
  fault : SourceFault
deriving DecidableEq

/-- The fault and its place in words. -/
def SourceError.message (error : SourceError) : String :=
  s!"line {error.line}: " ++ error.fault.message

/-- Why a file cannot be read or written. -/
inductive FileFailure where
  | notFound
  | notText
  /-- Any other cause, in the words of the system. -/
  | other (cause : String)
deriving DecidableEq

/-- The cause in words. -/
def FileFailure.message : FileFailure → String
  | notFound => "No such file or directory (os error 2)"
  | notText => "stream did not contain valid UTF-8"
  | other cause => cause

/-- Why a dictionary file does not extend a dictionary. -/
inductive FileError where
  | unreadable (path : String) (failure : FileFailure)
  | refused (path : String) (error : SourceError)
deriving DecidableEq

/-- The cause in words. -/
def FileError.message : FileError → String
  | unreadable path failure => "Failed to read dictionary " ++ path ++ ": " ++ failure.message
  | refused path error => path ++ ": " ++ error.message

/-- The line at which the file breaks a rule. -/
def FileError.line? : FileError → Option Nat
  | unreadable _ _ => none
  | refused _ error => some error.line

end Radius
