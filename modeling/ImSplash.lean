import ImSplash.Machine
import ImSplash.TaskTable
import ImSplash.Foundation
import ImSplash.Models
import ImSplash.DataManager
import ImSplash.DownloadManager
import ImSplash.ListViewController
import ImSplash.App
import ImSplash.ListAgreement
import ImSplash.OneTransfer
import ImSplash.ScreenRuns
import ImSplash.Retry
import ImSplash.Handover
import ImSplash.SavedFiles
import ImSplash.Saves
import ImSplash.Displayable
import ImSplash.PhotoView
import ImSplash.PhotoReuse
import ImSplash.PagedDataSource
import ImSplash.StaleRequests
import ImSplash.WholeCollection
import ImSplash.NetworkRequest
import ImSplash.FinishesOnce
import ImSplash.RequestAnswer
import ImSplash.Paging
import ImSplash.HomeScreen
import ImSplash.HomePrefix
import ImSplash.HomeBatch
import ImSplash.ErrorScreen
import ImSplash.ImageURL
import ImSplash.QueryString
import ImSplash.DisplayCollection
import ImSplash.ListedOnce
import ImSplash.Relaunch
import ImSplash.SharedFiles
import ImSplash.LeastLoaded
import ImSplash.WaterfallLayout
import ImSplash.WaterfallFrames
import ImSplash.VisibleRect
import ImSplash.StoreHistory
import ImSplash.FavoriteRows
import ImSplash.TransferProgress
import ImSplash.Relocation
import ImSplash.FormQuery
import ImSplash.RequestParameters
import ImSplash.TreeWalk
import ImSplash.OperationDependencies
import ImSplash.ScrollToEnd
import ImSplash.AppDependencies
import ImSplash.DetailHeart
import ImSplash.Fetching
import ImSplash.HexColor
import ImSplash.Provenance
import ImSplash.FetchProgress
import ImSplash.MemberOrder
import ImSplash.PhotoSchema
import ImSplash.PhotoDrag
import ImSplash.LayoutGrowth
import ImSplash.AppHistory
import ImSplash.BlockedRequests
import ImSplash.SettledScreen
import ImSplash.ServedApp
import ImSplash.AppRounds
import ImSplash.FromServer
