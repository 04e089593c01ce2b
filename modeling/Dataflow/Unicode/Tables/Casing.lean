import Dataflow.Unicode.Table
/-!
# Case mappings

The full case mappings of every code point that has one (Unicode 14.0, with the unconditional
special casings), in packed numbers (`Dataflow.Unicode.readPacked`) with copies
(`Dataflow.Unicode.expandCopies`), range coded (`Dataflow.Unicode.rangeDecode`).

A mapping is kept as the offsets of the code points it maps to from the code point itself, and
few lists of offsets recur: `caseMappingPatternText` lists the patterns, each three fields for
the lowercase, uppercase and titlecase mappings. A field is the number of its code points (zero
when the code point maps to itself) followed by their offsets, an offset `d` written `2d` when
it is at least zero and `-2d - 1` when it is below. `caseMappingText` gives, for every code point
with a mapping in increasing order, its distance from the code point before (the first from
zero) and the place of its pattern.
-/

namespace Dataflow.Unicode

/-- The patterns of offsets of the case mappings. -/
def caseMappingPatternText : String :=
  expandCopies (rangeDecode 8 1847 (String.join [
    "$!z&u@n_#HwUi%E5[Q3Ra|Z&?GAW-uDRFzl:@n5Unid=F$;Xii=,xbn|zDKGU;/p~/(xXI4R7pp0:V*;KZFB&ug[A-amEnUNHereK_lI6A8u<&Ot&_f-54W~GAZ=E+I;G~?uHkF*LhrzZ11GhkRLjb]DyR3ryW$M3)4lv%*f#7F.yqaCHIgaw>6=H4d.8:r2k:0,Zi3T](1CXfX.<tn=-C2&d.,Rpo;W&K0IQz4SQ/;SYET2,I0]<.=)yn[38][5)Mod/:%AHaXA]VvbuC!>x_D*7Rk1G9S7wsrwd2T1Y^(-BiIAb.f,@OpiF+tW7zhr<p?2T$4LcTxXhK2~#MKHWETICe)NYrvJ~v0IarVt6dMXAwN?@D(i*G?$fgck4N*Z(33Os:ML)rx$1Py10W[>i+7i?cfQ31Q$&0*Y&j&s^LPM,C0.tk>mHd(_2i|b+/yu-!4|oWz7u]j~%mB&<UOfTGUeMv@hnGFv[gyB&8yu^/Ko85!_8p?r_hVydMKlrY4h:;Sd5-Z?$)z?^zK8.EmXVqH3vI[otUE%IVcsd2($[l)aIMicEwdld-<KMriRRBVw+2_h<BVo-d/kp2<uCRz@*vr*vr/kFn4c<s8|9>hCQ=r5M:Bl9WkkyqN1dkGf^&>h9Qd2+IH!%>Z!(Ho<J4$_df/onyJ=Rz6o$.a@SWi/FM<2~!5_1m#dIUc!Fg=0!]/1~&^bWOiZ?EbNCm27thiT$1f,j[gT=%>/)UG^U^5~!M2i9+*I]H;ViOQbzg:ZfC50N%Mkwy<90[~G4-,SEi:&r[.m[o;YJXg&./B0l5Q;g93/A$TaR)nQ*FWFoNO8|?ra4N2(jD8.kZp3v;mcarxGo-YVV%twFrF,bA=mavmZ%KGmz5*eYbSONEErl;U#vZ68<1^h.;5wu^jjAT71IK|;t-jk5~ztc@@u^9>%m*uYPzt;+VPs|Jzlz[WFoVD3[V@a_Qqcir%7&qS=isPdS/d[vQ3|ZW&gfVXlaRq+C8Y#",
    ";BZ$WmQG,xfm#eA7uCeAkM/aO*wP.GxIT!t[0c>~Rut@|3:(!(MA9yB$[h%T-E1H<x:T/+!KPweDAXD>Y~aNRg]:>PgCR:hDzVY*_BL-.1-L0s-S|(,Zl[de@%Yg9rJf]fox7NZM<4$e|ksBT;C&mCH5pJRlHtp)l_yTGw(xvw%S9vq:@|FSiMjF!rEMXct4^+,l/MA>52UiU/1*/gHvCZ.5^3E@bh%wtv<Wop%PM$M)lhMyvb-S$rD7AF,b%!7O.jQ34|x:xjq;-u0l[q4.[c@ECnc|*l(ws&A<tRv->Z#)PZ@VQ7.nD,f/Z46Kp/!/z;VSqH|Qy[q=6I>Kr[a5;6s_qS[(8s<WbX5;n/;/Gz?gtk4>g#39a1h]jhyId/+_u![x#bI4;f"]))

/-- The code points with case mappings and their patterns. -/
def caseMappingText : String :=
  expandCopies (rangeDecode 4 1633 (String.join [
    "f<b<1FFeRnbW*v[P+H#^/]yyEt523(FQ3Dg(Y)66.J)Sv/]J0TIVsJ.9za;OCN^xS-B/Fbuti:O4*I5+qHDdwEV)h)GZtc1W@t)6=95pZJv;&Ur3vF$1(+MRirezw4))k8.ZmS,_?6!$iCSP5)Q%]-UiTUINOcxPU(?tSoORcF0?Hpt-s[V%<Ekzjsk?F;>Tnx2ud8boZmq4?=bIF_IJQnu^*zD7Tgf.8@gN+yx],nd,#[smBKLQLpQ[!|_9%1$gNqIcSNfsziW(C<CJ3]HFT<j4-FC$<M8W?VG_nRRW?(-8v|jdmI%!kRR~PWQ9E9tUTK4o?D<!&~*E<9e;cMrUX@fi:C9HvlN34S)6-n=uN,aB|/3D7|Za68pw)R,T,i#VH-(sUPTBLIjPbQw7f]|,K#,kd)%/ndaXN8Zw,HM:npY@+aPgrPfH!Wn/t-j#~5;Sh*2Q)a3k<,Ix09!ByBdDL#b7</_V^/RS)He_&a1!Apoq<G)a_mo80+;FO[y0ekcW^8KNVJHm:?oleaae?]1<izzYTf>Z4[IIOd(dz3o=zv89vjDcGeo9blLjCWdO>)X2NP7t.*2;9$V.K$SEP=PkQTj(P;Ej4q-*Y_6c/MXC4O?l+_!s#6u#Pg!B!#1nAj96A6p.48GokZ[9EuiwLmD&pW1f?~=~WxopNB9&H9>SGXk)WT&gw~lq]dkzj&OY/]su|rDrWFSp_TqQ|]1_[pM@jt0=aXqlm/IAA!RO87L/G<:S!/YUJnyPshK#nwz#0>ktSy.Gys(!aU8^?Jq^R#HPOoc)[D-M2,obWy4ra8B6&Pfbe|q=$919mT6dg=v3LNBtE-w48JZ)DHT5JVw(s/I|N[uG_d&hPUv6syjst@II+rcEt8HKP~8SBFQ_f/qPc&=p_l~Y.L[3_ledCDx254UosB%=#,]i>c<kX]4lX0V$yhOr[]iiRBm_F;Y2ALyG%wIv4c,uc1t-vm@@T.Ow26$M0qH4fI6lbfM!=k-VzG^F",
    "Nho_P)mp(4zPL%+@p]H+-Ueiu>j9~q>+6H!>wA[e&8D$$IHBmpnicafS~;%MEa#4C_sWz6?.^|i<b-+sG^CEuwZsP,!sNN*N8E%o~AEEZCrGaE#rRyt<Ff^o3iTpAv:Jj,qylE?>zRm02ANJ$LET(@:ZQC^2qp73Q^9$GY~|DEjy_Z0gd|X|%kj0C1$z*F*<&l$aW6L@ARi_&tfmk,j.UX[G?,?c1w|G1[-9NyUmC+J8u;-?+p&!Zp6SkeZyF;"]))

end Dataflow.Unicode
