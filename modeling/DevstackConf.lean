import DevstackConf.Graph.Basic
import DevstackConf.Catalog
import DevstackConf.Decimal.Binary
import DevstackConf.Decimal.Shortest
import DevstackConf.Decimal.Nearest
import DevstackConf.Decimal.Significand
import DevstackConf.Scalar
import DevstackConf.Dict
import DevstackConf.Variables
import DevstackConf.Plugins.Settings
import DevstackConf.Plugins.Basic
import DevstackConf.Text.Utf8
import DevstackConf.FileTree.Basic
import DevstackConf.Plugins.Discovery
import DevstackConf.Text.Escape
import DevstackConf.Text.Json
import DevstackConf.Yaml.Token
import DevstackConf.Yaml.Token.Scan
import DevstackConf.Yaml.Event
import DevstackConf.Yaml.Document
import DevstackConf.Yaml.Resolve
import DevstackConf.Yaml.Decode
import DevstackConf.Params
import DevstackConf.Render
import DevstackConf.Cli.Args
import DevstackConf.Cli.Run
import DevstackConf.Main
import DevstackConf.Proofs.Graph.Closure
import DevstackConf.Proofs.Graph.Sweep
import DevstackConf.Proofs.Graph.Insertion
import DevstackConf.Proofs.Graph.PostOrder
import DevstackConf.Proofs.Graph.Dependencies
import DevstackConf.Proofs.Graph.Stack
import DevstackConf.Proofs.Catalog.Order
import DevstackConf.Proofs.Catalog.Build
import DevstackConf.Proofs.Ordering
import DevstackConf.Proofs.Rollback
import DevstackConf.Proofs.Graph.Agreement
import DevstackConf.Proofs.Rejection
import DevstackConf.Proofs.References
import DevstackConf.Proofs.Settings
import DevstackConf.Proofs.MetaSections
import DevstackConf.Proofs.Overrides
import DevstackConf.Proofs.Discovery
