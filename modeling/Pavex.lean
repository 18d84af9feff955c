import Pavex.Str
import Pavex.Snapshot.Regex
import Pavex.Snapshot.Sanitize
import Pavex.Snapshot.Platform
import Pavex.Snapshot.Idempotence
import Pavex.UserComponents.Component
import Pavex.UserComponents.Collaborators
import Pavex.UserComponents.Diagnostics
import Pavex.UserComponents.ResolveAndIntern
import Pavex.UserComponents.Contents
import Pavex.UserComponents.Build
import Pavex.Blueprint.Registration
