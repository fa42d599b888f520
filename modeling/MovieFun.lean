import MovieFun.Foundation.Bucket
import MovieFun.Foundation.CallGroup
import MovieFun.Foundation.Civil
import MovieFun.Foundation.DispatchGroup
import MovieFun.Foundation.Display
import MovieFun.Foundation.Level
import MovieFun.Foundation.Numeral
import MovieFun.Foundation.Once
import MovieFun.Foundation.Pager
import MovieFun.Foundation.Projection
import MovieFun.Foundation.QueryString
import MovieFun.Foundation.Run
import MovieFun.Foundation.SlotRegistry
import MovieFun.Foundation.TableView
import MovieFun.Foundation.Traverse
import MovieFun.Foundation.Wildcard
import MovieFun.Helper.ArraySlice
import MovieFun.Helper.CGFloat
import MovieFun.Helper.DateFormatter
import MovieFun.Helper.DynamicType
import MovieFun.Helper.FileNames
import MovieFun.Helper.Gregorian
import MovieFun.Helper.MFTextView
import MovieFun.Helper.Utils
import MovieFun.LocalDatabase.RealmService
import MovieFun.Model.Message
import MovieFun.Model.Movie
import MovieFun.Network.AccountService
import MovieFun.Network.AnswersOnce
import MovieFun.Network.ChatService
import MovieFun.Network.CommentListService
import MovieFun.Network.DetailFetch
import MovieFun.Network.FavoriteCheck
import MovieFun.Network.FavoriteMovieService
import MovieFun.Network.FavoriteSearch
import MovieFun.Network.Firestore
import MovieFun.Network.ListenerSlots
import MovieFun.Network.LoneCheck
import MovieFun.Network.MovieCodecs
import MovieFun.Network.MovieService
import MovieFun.Network.ReadBack
import MovieFun.Network.SameFavorites
import MovieFun.Network.SearchURL
import MovieFun.Network.SendingOrder
import MovieFun.View.AccountMovie.AccountController
import MovieFun.View.AccountMovie.AccountFetching
import MovieFun.View.AccountMovie.FailedUpdate
import MovieFun.View.AccountMovie.LoginCover
import MovieFun.View.AccountMovie.ProfileEdits
import MovieFun.View.Chat.Admission
import MovieFun.View.Chat.Agreement
import MovieFun.View.Chat.ChatBar
import MovieFun.View.Chat.ChatController
import MovieFun.View.Chat.ChatEffect
import MovieFun.View.Chat.ChatPictures
import MovieFun.View.Chat.ChatRoom
import MovieFun.View.Chat.ChatSystem
import MovieFun.View.Chat.ChatTable
import MovieFun.View.Chat.ChatTableViewCell
import MovieFun.View.Chat.ChatViewModel
import MovieFun.View.Chat.Chronology
import MovieFun.View.Chat.DayGroups
import MovieFun.View.Chat.Delivery
import MovieFun.View.Chat.Echo
import MovieFun.View.Chat.Gallery
import MovieFun.View.Chat.Handoff
import MovieFun.View.Chat.Hearing
import MovieFun.View.Chat.ImagePicker
import MovieFun.View.Chat.RoomAgreement
import MovieFun.View.Chat.RowsAgree
import MovieFun.View.Chat.Shape
import MovieFun.View.Chat.ShownDocuments
import MovieFun.View.Chat.StorageKeys
import MovieFun.View.Chat.ThumbnailWindow
import MovieFun.View.Chat.Timeline
import MovieFun.View.Chat.Uniqueness
import MovieFun.View.CommentListMovie.CommentListController
import MovieFun.View.CommentListMovie.CommentListSystem
import MovieFun.View.CommentListMovie.NeverBack
import MovieFun.View.CommentListMovie.NewestFirst
import MovieFun.View.CommentListMovie.OnlyNews
import MovieFun.View.CommentListMovie.OwnList
import MovieFun.View.CommentListMovie.SamePreview
import MovieFun.View.CommentListMovie.Watched
import MovieFun.View.DetailMovie.FavoriteButton
import MovieFun.View.DetailMovie.MovieDetailController
import MovieFun.View.FavoriteMovie.FavoriteMovieController
import MovieFun.View.FavoriteMovie.FavoriteScreen
import MovieFun.View.Home.MovieListController
import MovieFun.View.Home.ShortLists
import MovieFun.View.ImageView
import MovieFun.View.LoadMoreAlike
import MovieFun.View.Login.LoginController
import MovieFun.View.Login.Session
import MovieFun.View.MalformedDocuments
import MovieFun.View.MovieList.ListController
import MovieFun.View.MovieList.ListPager
import MovieFun.View.MovieList.ListSystem
import MovieFun.View.MovieList.ListTable
import MovieFun.View.MovieList.LoadMoreSafety
import MovieFun.View.MovieList.NewMovieListTableViewCell
import MovieFun.View.MovieList.PagePrefix
import MovieFun.View.MovieList.StarSystem
import MovieFun.View.MovieList.TruthfulStars
import MovieFun.View.MovieRequests
import MovieFun.View.MovieRows
import MovieFun.View.PhotoGallery.MainCollectionViewCell
import MovieFun.View.PhotoGallery.PhotoGalleryController
import MovieFun.View.PhotoGallery.ThumbnailTap
import MovieFun.View.PhotoGallery.ZoomedPicture
import MovieFun.View.PosterView
import MovieFun.View.SearchMovie.EveryPage
import MovieFun.View.SearchMovie.QueryOnDisplay
import MovieFun.View.SearchMovie.SearchMovieController
import MovieFun.View.SearchMovie.SearchPager
import MovieFun.View.SearchMovie.SearchSystem
import MovieFun.View.SearchMovie.SearchTable
import MovieFun.View.Settling
