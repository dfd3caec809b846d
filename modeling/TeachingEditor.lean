import TeachingEditor.Editor
import TeachingEditor.Main
import TeachingEditor.Proofs.Language.Tiling
import TeachingEditor.Proofs.Language.Grammar
import TeachingEditor.Proofs.Toml.Document
import TeachingEditor.Proofs.Config
import TeachingEditor.Proofs.Highlight
import TeachingEditor.Proofs.Completion.Cursor
import TeachingEditor.Proofs.Completion.LastToken
import TeachingEditor.Proofs.Completion.Suggestion
import TeachingEditor.Proofs.Assistant
import TeachingEditor.Proofs.Editor
import TeachingEditor.Proofs.CommandLine
import TeachingEditor.Proofs.Catalog
import TeachingEditor.Proofs.Completion.Ranking
import TeachingEditor.Proofs.Language.Pieces
import TeachingEditor.Proofs.Knowledge
import TeachingEditor.Proofs.Completion.LongestWord
import TeachingEditor.Proofs.Completion.Replacement
import TeachingEditor.Proofs.Assistant.Outcome
import TeachingEditor.Proofs.Language.Locality
import TeachingEditor.Proofs.Knowledge.Containment
import TeachingEditor.Proofs.Catalog.Loading
import TeachingEditor.Proofs.Config.Overlay
import TeachingEditor.Proofs.Language.Classification
import TeachingEditor.Proofs.Completion.Reordering
import TeachingEditor.Proofs.Knowledge.Appending
import TeachingEditor.Proofs.CommandLine.Listing
import TeachingEditor.Proofs.Knowledge.Blank
import TeachingEditor.Proofs.Completion.Span
import TeachingEditor.Proofs.Completion.Typing
import TeachingEditor.Proofs.Catalog.Authoring
import TeachingEditor.Proofs.Language.Streaming
import TeachingEditor.Proofs.Catalog.Shipped
