import Vitae.CommandLine
import Vitae.Compilation
import Vitae.Document
import Vitae.Main
import Vitae.Proofs.Document.Definitions
import Vitae.Proofs.Document.Fallback
import Vitae.Proofs.Document.Rendering
import Vitae.Proofs.Document.Dates
import Vitae.Proofs.Document.Sessions
import Vitae.Proofs.Document.Introduction
import Vitae.Proofs.Template.Runs
import Vitae.Proofs.Layout.Reserved
import Vitae.Proofs.Layout.Frame
import Vitae.Proofs.Text.Seam
import Vitae.Proofs.Document.Placeholder
import Vitae.Proofs.Resume.Trimmed
import Vitae.Proofs.Section.Trimmed
import Vitae.Proofs.Layout.Trimmed
import Vitae.Proofs.Resume.Lawful
import Vitae.Proofs.Resume.Casing
import Vitae.Proofs.Resume.RoundTrip
import Vitae.Proofs.Resume.Association
import Vitae.Proofs.Resume.Dependence
import Vitae.Proofs.Text.Shown
import Vitae.Proofs.Text.Words
import Vitae.Proofs.Latex.Decoding
import Vitae.Proofs.Latex.Reading
import Vitae.Proofs.Resume.Accepted
import Vitae.Proofs.Document.Written
import Vitae.Proofs.Section.Shown
import Vitae.Proofs.Layout.Shown
import Vitae.Proofs.Layout.Table
import Vitae.Proofs.Layout.Header
import Vitae.Proofs.Latex.Joined
import Vitae.Proofs.Latex.Signs
import Vitae.Proofs.Latex.Options
import Vitae.Proofs.Section.Entries
import Vitae.Proofs.Section.Items
import Vitae.Proofs.Section.Projects
import Vitae.Proofs.Section.Names
import Vitae.Proofs.Resume.Blank
import Vitae.Proofs.Layout.Padded
import Vitae.Proofs.Latex.Commands
import Vitae.Proofs.Layout.Headings
import Vitae.Proofs.Layout.OwnValues
import Vitae.Proofs.Section.Programs
import Vitae.Proofs.Text.BlankRuns
import Vitae.Proofs.Document.Spacing
import Vitae.Proofs.Calendar.Turning
import Vitae.Proofs.Section.Categories
import Vitae.Proofs.Section.Footer
import Vitae.Proofs.Document.Reshaped
import Vitae.Proofs.Template.Agreement
import Vitae.Proofs.Section.Emptiness
