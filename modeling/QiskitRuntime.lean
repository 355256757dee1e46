import QiskitRuntime.Python.Dict
import QiskitRuntime.Python.Value
import QiskitRuntime.Options.EstimatorOptions
import QiskitRuntime.Options.Invariants
import QiskitRuntime.Options.FieldLaws
import QiskitRuntime.Session.RuntimeSession
import QiskitRuntime.Session.Primitives
import QiskitRuntime.Session.Protocol
import QiskitRuntime.Session.FrontEnd
import QiskitRuntime.Fake.Job
import QiskitRuntime.Fake.JobProgress
import QiskitRuntime.Fake.Client
import QiskitRuntime.Fake.ClientErrors
import QiskitRuntime.Fake.Registry
import QiskitRuntime.Fake.Programs
import QiskitRuntime.Fake.Listing
import QiskitRuntime.Fake.ClassQueue
import QiskitRuntime.Fake.JobSlots
import QiskitRuntime.Fake.Lifecycle
import QiskitRuntime.Fake.Interleaving
