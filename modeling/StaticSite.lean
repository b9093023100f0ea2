import StaticSite.Main
import StaticSite.Server.Exchange
import StaticSite.Proofs.FrontMatter.HeaderLines
import StaticSite.Proofs.FrontMatter.Placing
import StaticSite.Proofs.Component.Locating
import StaticSite.Proofs.Template
import StaticSite.Proofs.Component.Grammar
import StaticSite.Proofs.Text.Searching
import StaticSite.Proofs.Component.Expansion
import StaticSite.Proofs.Component.Splicing
import StaticSite.Proofs.Component.Inlining
import StaticSite.Proofs.FileTree.Opening
import StaticSite.Proofs.Workspace.Running
import StaticSite.Proofs.Text.Sorting
import StaticSite.Proofs.Workspace.Writing
import StaticSite.Proofs.FileTree.Copying
import StaticSite.Proofs.Path
import StaticSite.Proofs.Build.Preparing
import StaticSite.Proofs.Build.Sources
import StaticSite.Proofs.Build.Walking
import StaticSite.Proofs.Build.Gathering
import StaticSite.Proofs.Build.Paging
import StaticSite.Proofs.Build.Processing
import StaticSite.Proofs.Build.Phases
import StaticSite.Proofs.Build.Publishing
import StaticSite.Proofs.Server.Escaping
import StaticSite.Proofs.Page.Address
import StaticSite.Proofs.Server.Serving
import StaticSite.Proofs.Build.Listing
import StaticSite.Proofs.Component.Recurrence
import StaticSite.Proofs.Build.Written
import StaticSite.Proofs.Build.Indexing
import StaticSite.Proofs.Build.Hiding
import StaticSite.Proofs.FileTree.Contents
import StaticSite.Proofs.Text.LineEnds
import StaticSite.Proofs.Workspace.Mimicking
import StaticSite.Proofs.Workspace.Mirroring
import StaticSite.Proofs.Build.Rewalking
import StaticSite.Proofs.Build.Republishing
import StaticSite.Proofs.Build.Restarting
import StaticSite.Proofs.Build.Configuring
import StaticSite.Proofs.Build.Drafts
import StaticSite.Proofs.Build.Feeding
import StaticSite.Proofs.Build.Forgetting
import StaticSite.Proofs.Workspace.Keeping
import StaticSite.Proofs.Build.Confining
import StaticSite.Proofs.FileTree.Agreeing
import StaticSite.Proofs.Build.Rebuilding
import StaticSite.Proofs.Feed
import StaticSite.Proofs.Feed.Reading
import StaticSite.Proofs.Build.Ordering
import StaticSite.Proofs.Build.Posting
import StaticSite.Proofs.Component.Unfolding
import StaticSite.Proofs.Component.Renaming
import StaticSite.Proofs.Text.Words
import StaticSite.Proofs.Calendar.Stamp
import StaticSite.Proofs.Build.Dating
import StaticSite.Proofs.FileTree.Sharing
import StaticSite.Proofs.Server.Containing
import StaticSite.Proofs.Server.Thinning
import StaticSite.Proofs.Build.Interrupting
import StaticSite.Proofs.Server.Session
import StaticSite.Proofs.Server.Watching
import StaticSite.Proofs.Server.Noticing
import StaticSite.Proofs.Server.Checking
import StaticSite.Proofs.Server.Messages
import StaticSite.Proofs.Server.Answering
import StaticSite.Proofs.Build.Finishing
import StaticSite.Proofs.Build.Prevailing
import StaticSite.Proofs.Build.Respelling
import StaticSite.Proofs.Server.Typing
import StaticSite.Proofs.Calendar.Counting
import StaticSite.Proofs.Calendar.Instants
import StaticSite.Proofs.Component.Positions
import StaticSite.Proofs.Feed.Chronology
import StaticSite.Proofs.Config.Json.Breaking
import StaticSite.Proofs.Config.Toml.Statements
import StaticSite.Proofs.Config.Yaml.Nesting
import StaticSite.Proofs.Config.Yaml.Making
import StaticSite.Proofs.Config.Loading
import StaticSite.Proofs.Server.Framing
import StaticSite.Proofs.Page.Meta
import StaticSite.Proofs.NewSite.Publishing
import StaticSite.Proofs.Page.Linking
