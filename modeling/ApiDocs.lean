import ApiDocs.Command.Run
import ApiDocs.Main
import ApiDocs.Text.Lines
import ApiDocs.Proofs.Metadata.CanonicalName
import ApiDocs.Proofs.Metadata.MemberId
import ApiDocs.Proofs.Metadata.GenericName
import ApiDocs.Proofs.Metadata.PublicPart
import ApiDocs.Proofs.Command.Ending
import ApiDocs.Proofs.Command.Verbosity
import ApiDocs.Proofs.Documentation.Index
import ApiDocs.Proofs.Documentation.Lenient
import ApiDocs.Proofs.Descriptor
import ApiDocs.Proofs.Prose.Outermost
import ApiDocs.Proofs.Prose.Shift
import ApiDocs.Proofs.Markdown.IdentifierParity
import ApiDocs.Proofs.Markdown.Category
import ApiDocs.Proofs.Markdown.Order
import ApiDocs.Proofs.Markdown.Page
import ApiDocs.Proofs.Markdown.Relevance
import ApiDocs.Proofs.Markdown.Anchor
import ApiDocs.Proofs.Xml.Lossless
import ApiDocs.Proofs.Documentation.Warning
import ApiDocs.Proofs.Text.Line
import ApiDocs.Proofs.Text.Outdent
import ApiDocs.Proofs.Text.Settled
import ApiDocs.Proofs.Markdown.Details
import ApiDocs.Proofs.Prose.Alignment
import ApiDocs.Metadata.Source
import ApiDocs.Proofs.Metadata.Snapshot
import ApiDocs.Proofs.Name
import ApiDocs.Proofs.Prose.Label
import ApiDocs.Proofs.Documentation.Classification
import ApiDocs.Proofs.Markdown.Body
import ApiDocs.Proofs.Metadata.Role
import ApiDocs.Proofs.Metadata.Spelling
import ApiDocs.Proofs.Metadata.Loading
import ApiDocs.Proofs.Metadata.Nameless
import ApiDocs.Proofs.Documentation.Account
import ApiDocs.Proofs.Metadata.Suffix
import ApiDocs.Proofs.Decimal.Integer
import ApiDocs.Proofs.Documentation.Importance
import ApiDocs.Proofs.Markdown.Blank
