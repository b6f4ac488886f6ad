import DocGen.Lib.Prog
import DocGen.Lib.Calls
import DocGen.Lib.Fault
import DocGen.Lib.Interp
import DocGen.Lib.Threads
import DocGen.Lib.Coop
import DocGen.Lib.Str
import DocGen.Lib.Path
import DocGen.Lib.Writes
import DocGen.Lib.Regex
import DocGen.Lib.FileTree
import DocGen.Lib.Lists
import DocGen.Lib.Protocol
import DocGen.Lib.Beside
import DocGen.Lib.Raises
import DocGen.Lib.Retry
import DocGen.Lib.PyRepr
import DocGen.Models
import DocGen.Orchestrator
import DocGen.Dispatcher
import DocGen.Handling
import DocGen.Redelivery
import DocGen.Pipeline
import DocGen.Storage
import DocGen.ObjectKeys
import DocGen.OutputBucket
import DocGen.TemplateStore
import DocGen.TemplateUri
import DocGen.CacheDir
import DocGen.Cache
import DocGen.Confinement
import DocGen.CacheComplete
import DocGen.CacheFetch
import DocGen.CacheHistory
import DocGen.FailedFetch
import DocGen.BlockGate
import DocGen.Workbook
import DocGen.SheetReference
import DocGen.XlsxFill
import DocGen.XlsxBlocks
import DocGen.XlsxAbsence
import DocGen.Ooxml
import DocGen.PdfForm
import DocGen.JinjaHtml
import DocGen.ConsumerConfig
import DocGen.ConsumerUpdate
import DocGen.StorageFault
import DocGen.FsFault
import DocGen.RenderPool
import DocGen.SharedPool
import DocGen.Permits
import DocGen.Lifecycle
import DocGen.Startup
import DocGen.Poller
import DocGen.Renderers
import DocGen.Wire
import DocGen.SharedBucket
import DocGen.Transport
import DocGen.Accounts
import DocGen.Wiring
