import DocSite.Main
import DocSite.Proofs.Association
import DocSite.Proofs.Site.Slots
import DocSite.Proofs.FileTree.Places
import DocSite.Proofs.FileTree.Following
import DocSite.Proofs.FileTree.Writing
import DocSite.Proofs.Site.Kept
import DocSite.Proofs.Site.Output
import DocSite.Proofs.Site.Publishing
import DocSite.Proofs.Site.Building
import DocSite.Site.Buffered
import DocSite.Proofs.Watch.Agreement
import DocSite.Proofs.Watch.Convergence
import DocSite.Proofs.Watch.Removal
import DocSite.Proofs.Site.Buffered
import DocSite.Proofs.Page.Fences
import DocSite.Proofs.Page.Block
import DocSite.Proofs.Page.Lifting
import DocSite.Proofs.Page.Location
import DocSite.Proofs.Site.Exact
import DocSite.Proofs.Site.Overwriting
import DocSite.Proofs.Command.Coverage
import DocSite.Proofs.Watch.Updates
import DocSite.Proofs.Text.Phrases
import DocSite.Proofs.Text.Trimming
import DocSite.Proofs.Text.Lines
import DocSite.Proofs.Site.Links
import DocSite.Proofs.Markdown.Cutting
import DocSite.Proofs.Markdown.Prose
import DocSite.Proofs.Markdown.Target
import DocSite.Proofs.Markdown.Reading
import DocSite.Proofs.Markdown.Draft
import DocSite.Proofs.Markdown.Paragraph
import DocSite.Proofs.Markdown.Part
import DocSite.Proofs.Markdown.Document
import DocSite.Proofs.Markdown.Splicing
import DocSite.Proofs.Markdown.Rewriting
import DocSite.Proofs.Markdown.Retargeted
import DocSite.Proofs.Doclet.Comment
import DocSite.Proofs.Doclet.Marks
import DocSite.Proofs.Json.Fields
import DocSite.Proofs.Doclet.Naming
import DocSite.Proofs.Site.Search
import DocSite.Proofs.Site.Entries
import DocSite.Proofs.FileTree.Listing
import DocSite.Proofs.Glob.Literal
import DocSite.Proofs.Glob.Relocated
import DocSite.Proofs.Doclet.Relocated
import DocSite.Proofs.Mapping
import DocSite.Proofs.Config.Loading
import DocSite.Proofs.FileTree.Retracing
import DocSite.Proofs.Glob.Grown
import DocSite.Proofs.Doclet.Grown
import DocSite.Proofs.Site.Again
import DocSite.Proofs.Command.Again
import DocSite.Proofs.Template.Extending
import DocSite.Proofs.Site.Unresolved
import DocSite.Proofs.Markdown.Headings
import DocSite.Proofs.Doclet.Annotations
import DocSite.Proofs.Doclet.Blocks
import DocSite.Proofs.Page.Untitled
import DocSite.Proofs.Site.Commuting
import DocSite.Proofs.Site.Navigation
import DocSite.Proofs.Page.Extraction
import DocSite.Proofs.Doclet.Runs
import DocSite.Proofs.Doclet.Kinds
import DocSite.Proofs.Site.Doclets
import DocSite.Proofs.Text.Ink
import DocSite.Proofs.Doclet.Sections
import DocSite.Proofs.Doclet.Parameters
import DocSite.Proofs.Text.TopLine
import DocSite.Proofs.Doclet.Partition
import DocSite.Proofs.Site.Matching
import DocSite.Proofs.Path.Order
import DocSite.Proofs.Doclet.Wellformed
import DocSite.Proofs.Doclet.Collecting
import DocSite.Proofs.Markdown.Events
import DocSite.Proofs.Markdown.Highlighting
import DocSite.Proofs.Yaml.Wellformed
import DocSite.Proofs.Page.Asked
import DocSite.Proofs.Doclet.Registered
import DocSite.Site.Requests
import DocSite.Proofs.Site.Requests
import DocSite.Proofs.Markdown.Local
import DocSite.Proofs.Site.Walking
import DocSite.Proofs.Site.Titles
import DocSite.Proofs.Site.Orders
import DocSite.Proofs.Text.Slugs
import DocSite.Proofs.Markdown.Spliced
