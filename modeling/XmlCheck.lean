import XmlCheck.Batch
import XmlCheck.CommandLine
import XmlCheck.Console.Markup
import XmlCheck.Console.Screen
import XmlCheck.Declaration
import XmlCheck.Diagnostic
import XmlCheck.Discovery
import XmlCheck.File.Path
import XmlCheck.File.Tree
import XmlCheck.Form.Datum
import XmlCheck.Form.Json
import XmlCheck.Form.KeyText
import XmlCheck.Form.Reading
import XmlCheck.Form.Records
import XmlCheck.Main
import XmlCheck.Outcome
import XmlCheck.Pipeline
import XmlCheck.Proofs.AddressedFile
import XmlCheck.Proofs.AnnotationLines
import XmlCheck.Proofs.AnnotationReading
import XmlCheck.Proofs.AskedDocuments
import XmlCheck.Proofs.BatchTrace
import XmlCheck.Proofs.CanonicalPlace
import XmlCheck.Proofs.CommandSums
import XmlCheck.Proofs.ConsoleVerbatim
import XmlCheck.Proofs.DeclaredSchema
import XmlCheck.Proofs.DirectoryRows
import XmlCheck.Proofs.DirectorySearch
import XmlCheck.Proofs.DisplayNames
import XmlCheck.Proofs.EmptyVariables
import XmlCheck.Proofs.EncodedMessage
import XmlCheck.Proofs.Ending
import XmlCheck.Proofs.ErrorLocations
import XmlCheck.Proofs.FirstDeclaration
import XmlCheck.Proofs.FormVerdict
import XmlCheck.Proofs.IdentifierGrammar
import XmlCheck.Proofs.LabelledMessage
import XmlCheck.Proofs.LinkCircles
import XmlCheck.Proofs.ListedExclusions
import XmlCheck.Proofs.Lookup
import XmlCheck.Proofs.MarkupReading
import XmlCheck.Proofs.NamedFiles
import XmlCheck.Proofs.NamedPlace
import XmlCheck.Proofs.OctetsOfText
import XmlCheck.Proofs.OneBlock
import XmlCheck.Proofs.OverriddenOptions
import XmlCheck.Proofs.PastLoading
import XmlCheck.Proofs.PathText
import XmlCheck.Proofs.PlainReading
import XmlCheck.Proofs.PostedText
import XmlCheck.Proofs.PrintFaults
import XmlCheck.Proofs.PrintedText
import XmlCheck.Proofs.QuotedLocations
import XmlCheck.Proofs.ReaderFrame
import XmlCheck.Proofs.ReadingFaults
import XmlCheck.Proofs.RootContainment
import XmlCheck.Proofs.RootTag
import XmlCheck.Proofs.RunHistory
import XmlCheck.Proofs.SchemaPaths
import XmlCheck.Proofs.ServiceReplies
import XmlCheck.Proofs.Session
import XmlCheck.Proofs.SettingsRefusal
import XmlCheck.Proofs.SettledRoot
import XmlCheck.Proofs.Stages
import XmlCheck.Proofs.StartTag
import XmlCheck.Proofs.StoreHistory
import XmlCheck.Proofs.StoreUse
import XmlCheck.Proofs.TextReplacement
import XmlCheck.Proofs.Transparency
import XmlCheck.Proofs.TreeAnswers
import XmlCheck.Proofs.UndeclaredFiles
import XmlCheck.Proofs.WorkingDirectory
import XmlCheck.Report
import XmlCheck.Request
import XmlCheck.Resolver
import XmlCheck.Schema.Assembly
import XmlCheck.Schema.AttributeCheck
import XmlCheck.Schema.Automaton
import XmlCheck.Schema.Basic
import XmlCheck.Schema.Builtin
import XmlCheck.Schema.ContentModel
import XmlCheck.Schema.ContentRun
import XmlCheck.Schema.Decimal
import XmlCheck.Schema.Declared
import XmlCheck.Schema.Fault
import XmlCheck.Schema.KeyCheck
import XmlCheck.Schema.KeyPath
import XmlCheck.Schema.Literal
import XmlCheck.Schema.Loading
import XmlCheck.Schema.Moment
import XmlCheck.Schema.Pattern
import XmlCheck.Schema.Reader
import XmlCheck.Schema.Reading
import XmlCheck.Schema.SimpleType
import XmlCheck.Schema.TypeOrder
import XmlCheck.Schema.Validation
import XmlCheck.Schema.Value
import XmlCheck.Schema.Violation
import XmlCheck.SchemaStore
import XmlCheck.Service
import XmlCheck.Settings
import XmlCheck.Text.Basic
import XmlCheck.Text.Blank
import XmlCheck.Text.Category
import XmlCheck.Text.Digit
import XmlCheck.Text.Quoted
import XmlCheck.Text.Utf8
import XmlCheck.Text.Width
import XmlCheck.Urn
import XmlCheck.WellFormed
import XmlCheck.Xml.Char
import XmlCheck.Xml.Encoding
import XmlCheck.Xml.Node
import XmlCheck.Xml.Parse
import XmlCheck.Xml.Problem
import XmlCheck.Xml.Reader.Basic
import XmlCheck.Xml.Reader.Content
import XmlCheck.Xml.Reader.Lexeme
import XmlCheck.Xml.Reader.Subset
import XmlCheck.Xml.Reader.Tags
import XmlCheck.Xml.Reader.Value
import XmlCheck.Xml.Reply
import XmlCheck.Xml.Uri
import XmlCheck.Yaml.Cursor
import XmlCheck.Yaml.Joining
import XmlCheck.Yaml.Layout
import XmlCheck.Yaml.Node
import XmlCheck.Yaml.Number
import XmlCheck.Yaml.Scalar
import XmlCheck.Yaml.Tag
import XmlCheck.Yaml.Token
import XmlCheck.Yaml.Value
