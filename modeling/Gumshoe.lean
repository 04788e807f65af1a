import Gumshoe.Types
import Gumshoe.Bytes
import Gumshoe.Schema
import Gumshoe.Gen
import Gumshoe.Filter
import Gumshoe.Sum
import Gumshoe.Config
import Gumshoe.Router.Merge
import Gumshoe.Router.Shards
import Gumshoe.Router.Insert
import Gumshoe.Router.Fanout
import Gumshoe.Router.Failures
