import SliceSelection.CommandLine.Arguments
import SliceSelection.CommandLine.Conclusion
import SliceSelection.CommandLine.Manual
import SliceSelection.Daemon.Journal
import SliceSelection.Daemon.Log
import SliceSelection.Daemon.Rehearsal
import SliceSelection.Http.Client
import SliceSelection.Http.Error
import SliceSelection.Http.Message
import SliceSelection.Http.Uri
import SliceSelection.Ingest.Applier
import SliceSelection.Ingest.Channel
import SliceSelection.Ingest.Document
import SliceSelection.Ingest.WireList
import SliceSelection.Json.Basic
import SliceSelection.Json.Document
import SliceSelection.Json.Kept
import SliceSelection.Json.Magnitude
import SliceSelection.Json.Record
import SliceSelection.Json.Token
import SliceSelection.Lifecycle.Coordinator
import SliceSelection.Lifecycle.Exchange
import SliceSelection.Lifecycle.Heartbeat
import SliceSelection.Lifecycle.Rehearsal
import SliceSelection.Main
import SliceSelection.Plmn
import SliceSelection.Polling.Backoff
import SliceSelection.Polling.Poller
import SliceSelection.Polling.Span
import SliceSelection.Proofs.Http.Origin
import SliceSelection.Proofs.Ingest.Agreement
import SliceSelection.Proofs.Ingest.Coherence
import SliceSelection.Proofs.Ingest.Feed
import SliceSelection.Proofs.Ingest.Grouping
import SliceSelection.Proofs.Ingest.Meaning
import SliceSelection.Proofs.Ingest.Publication
import SliceSelection.Proofs.Json.Document
import SliceSelection.Proofs.Json.Keeping
import SliceSelection.Proofs.Json.Lexeme
import SliceSelection.Proofs.Json.Record
import SliceSelection.Proofs.Json.RoundTrip
import SliceSelection.Proofs.Lifecycle.Addressing
import SliceSelection.Proofs.Lifecycle.Adoption
import SliceSelection.Proofs.Lifecycle.Announcement
import SliceSelection.Proofs.Lifecycle.Attempt
import SliceSelection.Proofs.Lifecycle.Boot
import SliceSelection.Proofs.Lifecycle.Calling
import SliceSelection.Proofs.Lifecycle.Course
import SliceSelection.Proofs.Lifecycle.Handling
import SliceSelection.Proofs.Lifecycle.Heartbeat
import SliceSelection.Proofs.Lifecycle.Keepalive
import SliceSelection.Proofs.Lifecycle.Pacing
import SliceSelection.Proofs.Lifecycle.Perseverance
import SliceSelection.Proofs.Lifecycle.Progress
import SliceSelection.Proofs.Lifecycle.Reachability
import SliceSelection.Proofs.Lifecycle.Reregistration
import SliceSelection.Proofs.Lifecycle.Rule
import SliceSelection.Proofs.Lifecycle.Run
import SliceSelection.Proofs.Lifecycle.Shutdown
import SliceSelection.Proofs.Lifecycle.SingleShot
import SliceSelection.Proofs.Lifecycle.Stage
import SliceSelection.Proofs.Lifecycle.Standing
import SliceSelection.Proofs.Lifecycle.Timing
import SliceSelection.Proofs.Polling.Attempts
import SliceSelection.Proofs.Polling.Doubling
import SliceSelection.Proofs.Polling.Session
import SliceSelection.Proofs.Registry.Items
import SliceSelection.Proofs.Registry.Location
import SliceSelection.Proofs.Registry.Refusal
import SliceSelection.Proofs.Registry.Relocation
import SliceSelection.Proofs.Settings.Reading
import SliceSelection.Proofs.SliceStream.Clearing
import SliceSelection.Proofs.SliceStream.Connection
import SliceSelection.Proofs.SliceStream.Discarding
import SliceSelection.Proofs.SliceStream.Fields
import SliceSelection.Proofs.SliceStream.Flattened
import SliceSelection.Proofs.SliceStream.Play
import SliceSelection.Proofs.SliceStream.Reconnection
import SliceSelection.Proofs.SliceStream.RoundTrip
import SliceSelection.Proofs.SliceStream.Session
import SliceSelection.Proofs.Text.Substring
import SliceSelection.Proofs.Text.Utf8
import SliceSelection.Registry.Client
import SliceSelection.Registry.Identity
import SliceSelection.Registry.Instance
import SliceSelection.Registry.Outcome
import SliceSelection.Registry.Patch
import SliceSelection.Registry.Problem
import SliceSelection.Registry.Profile
import SliceSelection.Settings.Basic
import SliceSelection.Settings.Document
import SliceSelection.SliceMap
import SliceSelection.SliceStream.Field
import SliceSelection.SliceStream.Message
import SliceSelection.SliceStream.Rehearsal
import SliceSelection.SliceStream.Watcher
import SliceSelection.SliceStream.Wire
import SliceSelection.Snssai
import SliceSelection.Text.Blank
import SliceSelection.Text.Formless
import SliceSelection.Text.Likeness
import SliceSelection.Text.Quoted
import SliceSelection.Text.Substring
import SliceSelection.Text.Uppercase
import SliceSelection.Text.Utf8
import SliceSelection.Yaml.Glyph
import SliceSelection.Yaml.Node
import SliceSelection.Yaml.Scalar
import SliceSelection.Yaml.Scanner
import SliceSelection.Yaml.Token
import SliceSelection.Yaml.Value
