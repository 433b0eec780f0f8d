import Radius.Address
import Radius.Attribute
import Radius.Attribute.Error
import Radius.Attribute.Standard
import Radius.CommandLine
import Radius.Dictionary
import Radius.Dictionary.Builtin
import Radius.Dictionary.Definition
import Radius.Dictionary.Error
import Radius.Dictionary.Loading
import Radius.Dictionary.Source
import Radius.Dictionary.Vendor
import Radius.Json
import Radius.Json.Node
import Radius.Json.Token
import Radius.Main
import Radius.Octets
import Radius.Packet
import Radius.Packet.Code
import Radius.Program
import Radius.Query
import Radius.Report
import Radius.Report.Document
import Radius.Settings
import Radius.Text.Blank
import Radius.Text.Case
import Radius.Text.Hex
import Radius.Text.Lines
import Radius.Text.Numeral
import Radius.Text.Quoted
import Radius.Text.Unprintable
import Radius.Text.Utf8
import Radius.Validation
import Radius.Value
import Radius.Value.Kind
import Radius.VendorSpecific
import Radius.Proofs.Outcome
import Radius.Proofs.Wire.Attribute
import Radius.Proofs.Wire.VendorFrame
import Radius.Proofs.Wire.Packet
import Radius.Proofs.Text.Numeral
import Radius.Proofs.Text.Utf8
import Radius.Proofs.Text.Blank
import Radius.Proofs.Text.Hex
import Radius.Proofs.Address
import Radius.Proofs.Address.Ipv6
import Radius.Proofs.Value
import Radius.Proofs.Value.Text
import Radius.Proofs.Dictionary.TaggedValue
import Radius.Proofs.Dictionary.WellFormed
import Radius.Proofs.Dictionary.Loading
import Radius.Proofs.Dictionary.Reachable
import Radius.Proofs.Dictionary.Description
import Radius.Proofs.Dictionary.Concatenation
import Radius.Proofs.Dictionary.Declarations
import Radius.Proofs.Dictionary.Builtin
import Radius.Proofs.Wire.Container
import Radius.Registry
import Radius.Registry.Loading
import Radius.Registry.Validation
import Radius.Proofs.Dictionary.Membership
import Radius.Proofs.Registry.Coherent
import Radius.Proofs.Registry.Refinement
import Radius.Proofs.Registry.Loading
import Radius.Proofs.Registry.Reachable
import Radius.Proofs.Dictionary.Growth
import Radius.Proofs.Dictionary.Layering
import Radius.Proofs.Validation
import Radius.Proofs.Inspection
import Radius.Proofs.Recoding
import Radius.Proofs.Registry.Merge
import Radius.Proofs.Registry.Validation
import Radius.ByPosition
import Radius.Proofs.Wire.ByPosition
import Radius.Proofs.Program
import Radius.Proofs.Dictionary.Namings
import Radius.Packet.Building
import Radius.Proofs.Wire.Wrapping
import Radius.Proofs.Packet.Vendors
import Radius.Proofs.Packet.Building
import Radius.Proofs.Packet.Packing
import Radius.Query.Warning
import Radius.Proofs.Inspection.Attributes
import Radius.Proofs.Json.Token
import Radius.Proofs.Json.Node
import Radius.Files
import Radius.Proofs.Settings
import Radius.Proofs.Wire.OneOrSeveral
import Radius.Proofs.Wire.Limits
import Radius.Registry.Staging
import Radius.Proofs.Registry.Refusal
import Radius.Proofs.Value.Wire
import Radius.Proofs.Text.Layout
import Radius.Proofs.Dictionary.Layout
import Radius.Proofs.Dictionary.Enumeration
import Radius.Proofs.Text.Decimal
import Radius.Proofs.Text.Case
import Radius.Proofs.Text.Pasted
import Radius.Proofs.Dictionary.Numerals
import Radius.Proofs.Value.Case
import Radius.Registry.Building
import Radius.Registry.Query
import Radius.Proofs.Registry.Building
import Radius.Proofs.Registry.Query
import Radius.Proofs.Dictionary.History
