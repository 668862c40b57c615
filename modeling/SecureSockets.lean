import SecureSockets.Config.Basic
import SecureSockets.Config.Json
import SecureSockets.Context.HostnameVerifier
import SecureSockets.Context.ManagerFactory
import SecureSockets.Context.Platform
import SecureSockets.Context.SecurityContext
import SecureSockets.Defaults
import SecureSockets.Error
import SecureSockets.Idna.Direction
import SecureSockets.Idna.Joiners
import SecureSockets.Idna.Label
import SecureSockets.Idna.Mapping
import SecureSockets.Idna.Mapping.Table
import SecureSockets.Idna.Punycode
import SecureSockets.Json
import SecureSockets.Lock
import SecureSockets.Log
import SecureSockets.Proofs.Config.Loading
import SecureSockets.Proofs.Config.Spellings
import SecureSockets.Proofs.Context.Facades
import SecureSockets.Proofs.Defaults
import SecureSockets.Proofs.Effect
import SecureSockets.Proofs.Idna.Ascii
import SecureSockets.Proofs.Idna.Punycode
import SecureSockets.Proofs.Provider.Edits
import SecureSockets.Proofs.Provider.Installed
import SecureSockets.Proofs.Provider.Registrations
import SecureSockets.Proofs.Provider.Resolution
import SecureSockets.Proofs.Regex.Brackets
import SecureSockets.Proofs.Regex.ClassMembers
import SecureSockets.Proofs.Regex.Closing
import SecureSockets.Proofs.Regex.Escapes
import SecureSockets.Proofs.Regex.Frames
import SecureSockets.Proofs.Regex.Groups
import SecureSockets.Proofs.Regex.IgnoredCase
import SecureSockets.Proofs.Regex.LetterCase
import SecureSockets.Proofs.Regex.Parts
import SecureSockets.Proofs.Regex.Repetitions
import SecureSockets.Proofs.Regex.Spans
import SecureSockets.Proofs.Session.AllOrNothing
import SecureSockets.Proofs.Session.Changes
import SecureSockets.Proofs.Session.Duplicates
import SecureSockets.Proofs.Session.FirstOffence
import SecureSockets.Proofs.Session.Lens
import SecureSockets.Proofs.Session.SetterCalls
import SecureSockets.Proofs.Slot.Accounting
import SecureSockets.Proofs.Slot.Agreement
import SecureSockets.Proofs.Slot.Cell
import SecureSockets.Proofs.Slot.Guarded
import SecureSockets.Proofs.Slot.History
import SecureSockets.Proofs.Slot.Interleaving
import SecureSockets.Proofs.Slot.Override
import SecureSockets.Proofs.Slot.Schedules
import SecureSockets.Proofs.Slot.Strategies
import SecureSockets.Proofs.Sni.FullMatch
import SecureSockets.Proofs.Sni.Grammar
import SecureSockets.Proofs.Sni.Identity
import SecureSockets.Proofs.Sni.Labels
import SecureSockets.Proofs.Sni.LetterCase
import SecureSockets.Proofs.Sni.Payload
import SecureSockets.Proofs.Sni.Rendering
import SecureSockets.Proofs.Sni.Spelling
import SecureSockets.Proofs.Sni.UnicodeForm
import SecureSockets.Proofs.Sni.Unreadable
import SecureSockets.Proofs.Sni.WellFormed
import SecureSockets.Proofs.Text.Blank
import SecureSockets.Proofs.Text.Utf8
import SecureSockets.Proofs.Unicode.Letters
import SecureSockets.Provider.Basic
import SecureSockets.Provider.List
import SecureSockets.Provider.Resolve
import SecureSockets.Provider.Shared
import SecureSockets.Provider.Static
import SecureSockets.Regex.Basic
import SecureSockets.Regex.Bracket
import SecureSockets.Regex.CharSet
import SecureSockets.Regex.Compiler
import SecureSockets.Regex.Escape
import SecureSockets.Regex.Flags
import SecureSockets.Regex.Match
import SecureSockets.Regex.Parse
import SecureSockets.Run
import SecureSockets.Session.ClientAuth
import SecureSockets.Session.Engine
import SecureSockets.Session.Parameters
import SecureSockets.Session.Reconcile
import SecureSockets.Simulation.Engine
import SecureSockets.Simulation.Platform
import SecureSockets.Slot.Basic
import SecureSockets.Slot.Guarded
import SecureSockets.Slot.Script
import SecureSockets.Sni.HostName
import SecureSockets.Sni.LabelCodec
import SecureSockets.Sni.Matcher
import SecureSockets.Sni.ServerName
import SecureSockets.Text.Blank
import SecureSockets.Text.Hex
import SecureSockets.Text.Quoted
import SecureSockets.Text.Utf8
import SecureSockets.Unicode.Bidi
import SecureSockets.Unicode.Bidi.Table
import SecureSockets.Unicode.Category
import SecureSockets.Unicode.Category.Table
import SecureSockets.Unicode.Folding
import SecureSockets.Unicode.Folding.Table
import SecureSockets.Unicode.Joining
import SecureSockets.Unicode.Joining.Table
import SecureSockets.Unicode.Normal
import SecureSockets.Unicode.Normal.Table
import SecureSockets.Unicode.Property
import SecureSockets.Unicode.Property.Table
import SecureSockets.Unicode.Script
import SecureSockets.Unicode.Script.Table
import SecureSockets.Unicode.Table
import SecureSockets.WellKnown
