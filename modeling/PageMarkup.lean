import PageMarkup.CommandLine
import PageMarkup.Main
import PageMarkup.Proofs.Run
import PageMarkup.Proofs.Handling.Parts
import PageMarkup.Proofs.Handling.Refusals
import PageMarkup.Proofs.Handling.Rules
import PageMarkup.Proofs.Modes
import PageMarkup.Proofs.Reading.Faults
import PageMarkup.Proofs.Faults
import PageMarkup.Proofs.Contents
import PageMarkup.Proofs.Plain.Compiled
import PageMarkup.Proofs.Code.Colours
import PageMarkup.Proofs.Code.Lexemes
import PageMarkup.Proofs.Code.Lines
import PageMarkup.Proofs.Code.Listed
import PageMarkup.Proofs.Code.Tidied
import PageMarkup.Proofs.Comments
import PageMarkup.Proofs.Bookmarks.Ledger
import PageMarkup.Proofs.Bookmarks.Labels
import PageMarkup.Proofs.Bookmarks.Tagless
import PageMarkup.Proofs.Reading.Backticks
import PageMarkup.Proofs.Reading.Extended
import PageMarkup.Proofs.Relocation
import PageMarkup.Proofs.Joined
import PageMarkup.Proofs.LineEnds
import PageMarkup.Proofs.InlineCode
import PageMarkup.Proofs.Bookmarks.Anchors
import PageMarkup.Proofs.Brackets
import PageMarkup.Proofs.Matching
import PageMarkup.Proofs.Markup
import PageMarkup.Proofs.Texts
import PageMarkup.Proofs.Reading.Grammar
import PageMarkup.Proofs.Alike
import PageMarkup.Proofs.CommentBodies
import PageMarkup.Proofs.Reading.Tags
import PageMarkup.Proofs.SelfClosing
import PageMarkup.Proofs.Bookmarks.Ids
import PageMarkup.Proofs.Sessions
import PageMarkup.Proofs.Listings
import PageMarkup.Proofs.Separators
import PageMarkup.Proofs.Bookmarks.Names
import PageMarkup.Proofs.Requests
import PageMarkup.Proofs.LongerSources
import PageMarkup.Proofs.Toggles
import PageMarkup.Proofs.AuthorNotes
import PageMarkup.Proofs.Files.Compiled
import PageMarkup.Proofs.Files.Publishing
import PageMarkup.Proofs.Settings.Skipped
